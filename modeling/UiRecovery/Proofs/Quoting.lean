import Mathlib.Data.List.Basic
import UiRecovery.Error

/-!
# What quoted text shows

Text between quotes shows every character: nothing unseen is left in it
(`not_isUnseen_of_mem_quoted`), and where it ends can be told whatever follows
it (`quoted_append_inj`). The characters are shown in a prefix code, so that
the second is an induction over the text, with one character a step
(`QuotedAs.append_inj`). Hence the message of a malformed idiom names one
text only (`Error.site_eq_of_message_eq`), although the signature behind it is
not quoted.
-/

namespace UiRecovery.Text

/-! ## Hexadecimal digits -/

theorem digitChar_inj {m n : Nat} (hm : m < 16) (hn : n < 16)
    (h : Nat.digitChar m = Nat.digitChar n) : m = n := by
  have hall : ∀ m < 16, ∀ n < 16, Nat.digitChar m = Nat.digitChar n → m = n := by decide
  exact hall m hm n hn h

/-- A numeral is its last digit behind the digits of the rest, which are
none for a number of one digit. -/
theorem toDigits_eq_append (n : Nat) :
    Nat.toDigits 16 n =
      (if n < 16 then [] else Nat.toDigits 16 (n / 16)) ++ [Nat.digitChar (n % 16)] := by
  rw [Nat.toDigits_eq_if (by decide)]
  split
  · rename_i hn
    rw [Nat.mod_eq_of_lt hn, List.nil_append]
  · rfl

theorem exists_of_mem_toDigits {c : Char} {n : Nat} (hc : c ∈ Nat.toDigits 16 n) :
    ∃ d < 16, c = Nat.digitChar d := by
  induction n using Nat.strongRecOn with
  | ind n ih =>
    rw [toDigits_eq_append] at hc
    rcases List.mem_append.mp hc with hhigh | hlow
    · split at hhigh
      · cases hhigh
      · exact ih (n / 16) (by omega) hhigh
    · exact ⟨n % 16, Nat.mod_lt n (by decide), List.mem_singleton.mp hlow⟩

theorem toDigits_inj {m n : Nat} (h : Nat.toDigits 16 m = Nat.toDigits 16 n) : m = n := by
  induction m using Nat.strongRecOn generalizing n with
  | ind m ih =>
    rw [toDigits_eq_append m, toDigits_eq_append n] at h
    obtain ⟨hhigh, hlow⟩ := List.append_inj' h rfl
    have hmod : m % 16 = n % 16 := digitChar_inj (Nat.mod_lt m (by decide))
      (Nat.mod_lt n (by decide)) (List.singleton_inj.mp hlow)
    split at hhigh <;> split at hhigh
    · omega
    · exact absurd hhigh.symm Nat.toDigits_ne_nil
    · exact absurd hhigh Nat.toDigits_ne_nil
    · have hdiv := ih (m / 16) (by omega) hhigh
      omega

/-! ## One character -/

/-- How a character can be shown. -/
inductive QuotedAs (c : Char) : List Char → Prop
  | letter {e : Char} (h : (c, e) ∈ escapes) : QuotedAs c ['\\', e]
  | code : QuotedAs c (['\\', 'u', '\x7b'] ++ Nat.toDigits 16 c.toNat ++ ['\x7d'])
  | plain (hquote : c ≠ '"') (hslash : c ≠ '\\') (hseen : isUnseen c = false) : QuotedAs c [c]

theorem mem_escapes_of_lookup {c e : Char} (h : escapes.lookup c = some e) : (c, e) ∈ escapes := by
  obtain ⟨l₁, l₂, hsplit, -⟩ := List.lookup_eq_some_iff.mp h
  rw [hsplit]
  exact List.mem_append_right _ List.mem_cons_self

theorem quotedAs_quotedChar (c : Char) : QuotedAs c (quotedChar c) := by
  unfold quotedChar
  split
  · rename_i e he
    exact .letter (mem_escapes_of_lookup he)
  · rename_i hnone
    split
    · exact .code
    · rename_i hseen
      -- A quote or a backslash would have had an escape.
      refine .plain ?_ ?_ (Bool.eq_false_iff.mpr hseen)
      · rintro rfl
        exact absurd hnone (by decide)
      · rintro rfl
        exact absurd hnone (by decide)

theorem escapes_inj {c d e : Char} (hc : (c, e) ∈ escapes) (hd : (d, e) ∈ escapes) : c = d := by
  have hall : ∀ p ∈ escapes, ∀ q ∈ escapes, p.2 = q.2 → p.1 = q.1 := by decide
  exact hall (c, e) hc (d, e) hd rfl

theorem escape_ne_u {c e : Char} (h : (c, e) ∈ escapes) : e ≠ 'u' := by
  have hall : ∀ p ∈ escapes, p.2 ≠ 'u' := by decide
  exact hall (c, e) h

/-- The digits of a code point end at the brace. -/
theorem takeWhile_toDigits_append (n : Nat) (xs : List Char) :
    (Nat.toDigits 16 n ++ '\x7d' :: xs).takeWhile (· ≠ '\x7d') = Nat.toDigits 16 n := by
  rw [List.takeWhile_append_of_pos, List.takeWhile_cons_of_neg (by decide), List.append_nil]
  intro c hc
  have hdigit : ∀ d < 16, Nat.digitChar d ≠ '\x7d' := by decide
  obtain ⟨d, hd, rfl⟩ := exists_of_mem_toDigits hc
  exact decide_eq_true (hdigit d hd)

theorem toDigits_append_inj {m n : Nat} {xs ys : List Char}
    (h : Nat.toDigits 16 m ++ '\x7d' :: xs = Nat.toDigits 16 n ++ '\x7d' :: ys) :
    m = n ∧ xs = ys := by
  have hdigits : Nat.toDigits 16 m = Nat.toDigits 16 n := by
    rw [← takeWhile_toDigits_append m xs, h, takeWhile_toDigits_append]
  rw [hdigits] at h
  exact ⟨toDigits_inj hdigits, (List.cons.inj (List.append_cancel_left h)).2⟩

/-- No character is shown by a beginning of what shows another. -/
theorem QuotedAs.append_inj {c d : Char} {cs ds xs ys : List Char} (hc : QuotedAs c cs)
    (hd : QuotedAs d ds) (h : cs ++ xs = ds ++ ys) : c = d ∧ xs = ys := by
  cases hc with
  | letter he =>
    cases hd with
    | letter he' =>
      obtain ⟨rfl, hrest⟩ := List.cons.inj (List.cons.inj h).2
      exact ⟨escapes_inj he he', hrest⟩
    | code => exact absurd (List.cons.inj (List.cons.inj h).2).1 (escape_ne_u he)
    | plain hquote hslash => exact absurd (List.cons.inj h).1.symm hslash
  | code =>
    cases hd with
    | letter he' => exact absurd (List.cons.inj (List.cons.inj h).2).1.symm (escape_ne_u he')
    | code =>
      obtain ⟨hcode, hrest⟩ := toDigits_append_inj (by simpa using h)
      exact ⟨Char.toNat_inj.mp hcode, hrest⟩
    | plain hquote hslash => exact absurd (List.cons.inj h).1.symm hslash
  | plain hquote hslash =>
    cases hd with
    | letter => exact absurd (List.cons.inj h).1 hslash
    | code => exact absurd (List.cons.inj h).1 hslash
    | plain => exact List.cons.inj h

theorem QuotedAs.head_ne_quote {c : Char} {cs : List Char} (h : QuotedAs c cs) (xs ys : List Char) :
    cs ++ xs ≠ '"' :: ys := by
  cases h with
  | letter | code => exact fun heq => absurd (List.cons.inj heq).1 (by decide)
  | plain hquote => exact fun heq => hquote (List.cons.inj heq).1

/-- The visible characters of ASCII are seen: the tables keep clear of them. -/
theorem not_isUnseen_of_ascii {c : Char} (hc : 0x20 ≤ c.toNat ∧ c.toNat < 0x7f) :
    isUnseen c = false := by
  have hapart : ∀ r ∈ unassignedRanges ++ (unmarkedRanges ++ extendingRanges),
      r.2 < 0x20 ∨ 0x7f ≤ r.1 := by decide +kernel
  rw [isUnseen, isUnassigned, ← List.any_append, List.any_eq_false]
  intro r hr hwithin
  have hbounds : r.1 ≤ c.toNat ∧ c.toNat ≤ r.2 := by simpa using hwithin
  rcases hapart r hr with hbelow | habove <;> omega

/-- What shows a character is seen itself. -/
theorem QuotedAs.not_isUnseen {c d : Char} {cs : List Char} (h : QuotedAs c cs) (hd : d ∈ cs) :
    isUnseen d = false := by
  have hletters : ∀ p ∈ escapes, 0x20 ≤ p.2.toNat ∧ p.2.toNat < 0x7f := by decide +kernel
  have hdigits : ∀ d < 16, 0x20 ≤ (Nat.digitChar d).toNat ∧ (Nat.digitChar d).toNat < 0x7f := by
    decide +kernel
  cases h with
  | letter he =>
    rcases List.mem_cons.mp hd with rfl | hd
    · exact not_isUnseen_of_ascii (by decide)
    · rw [List.mem_singleton.mp hd]
      exact not_isUnseen_of_ascii (hletters _ he)
  | code =>
    rcases List.mem_append.mp hd with hd | hd
    · rcases List.mem_append.mp hd with hd | hd
      · have hsign : d = '\\' ∨ d = 'u' ∨ d = '\x7b' := by simpa using hd
        rcases hsign with rfl | rfl | rfl <;> exact not_isUnseen_of_ascii (by decide)
      · obtain ⟨k, hk, rfl⟩ := exists_of_mem_toDigits hd
        exact not_isUnseen_of_ascii (hdigits k hk)
    · rw [List.mem_singleton.mp hd]
      exact not_isUnseen_of_ascii (by decide)
  | plain hquote hslash hseen => rwa [List.mem_singleton.mp hd]

/-! ## Text -/

theorem toList_quoted (s : String) :
    (quoted s).toList = '"' :: (s.toList.flatMap quotedChar ++ ['"']) :=
  String.toList_ofList

/-- Nothing in a quoted text is unseen, whatever the text holds. -/
theorem not_isUnseen_of_mem_quoted {s : String} {c : Char} (hc : c ∈ (quoted s).toList) :
    isUnseen c = false := by
  have hquote : isUnseen '"' = false := not_isUnseen_of_ascii (by decide)
  rw [toList_quoted, List.mem_cons, List.mem_append, List.mem_singleton, List.mem_flatMap] at hc
  rcases hc with rfl | ⟨d, -, hd⟩ | rfl
  · exact hquote
  · exact (quotedAs_quotedChar d).not_isUnseen hd
  · exact hquote

/-- The shown characters end at the first quote that shows none. -/
theorem flatMap_quotedChar_append_inj {cs ds xs ys : List Char}
    (h : cs.flatMap quotedChar ++ '"' :: xs = ds.flatMap quotedChar ++ '"' :: ys) :
    cs = ds ∧ xs = ys := by
  induction cs generalizing ds with
  | nil =>
    cases ds with
    | nil => exact ⟨rfl, (List.cons.inj h).2⟩
    | cons d ds =>
      rw [List.flatMap_cons, List.append_assoc] at h
      exact absurd h.symm ((quotedAs_quotedChar d).head_ne_quote _ _)
  | cons c cs ih =>
    rw [List.flatMap_cons, List.append_assoc] at h
    cases ds with
    | nil => exact absurd h ((quotedAs_quotedChar c).head_ne_quote _ _)
    | cons d ds =>
      rw [List.flatMap_cons, List.append_assoc] at h
      obtain ⟨rfl, htail⟩ := (quotedAs_quotedChar c).append_inj (quotedAs_quotedChar d) h
      obtain ⟨rfl, hrest⟩ := ih htail
      exact ⟨rfl, hrest⟩

/-- Where a quoted text ends can be told, and what text it is, whatever
follows it. -/
theorem quoted_append_inj {s t : String} {xs ys : List Char}
    (h : (quoted s).toList ++ xs = (quoted t).toList ++ ys) : s = t ∧ xs = ys := by
  rw [toList_quoted, toList_quoted, List.cons_append, List.cons_append, List.append_assoc,
    List.append_assoc] at h
  obtain ⟨htext, hrest⟩ := flatMap_quotedChar_append_inj (List.cons.inj h).2
  exact ⟨String.toList_inj.mp htext, hrest⟩

example : quoted "a\n\x01\u00a0é" = "\"a\\n\\u\x7b1\x7d\\u\x7ba0\x7dé\"" := by decide +kernel

end UiRecovery.Text

namespace UiRecovery.Error

theorem toList_message_malformed (s method reason : String) :
    (malformed s method reason).message.toList =
      "Malformed idiom at ".toList ++
        ((Text.quoted s).toList ++ (" in " ++ method ++ ": " ++ reason).toList) := by
  -- Over variables, since the literals would be unfolded to characters.
  have hsplit : ∀ a b c d e f : String,
      (a ++ b ++ c ++ d ++ e ++ f).toList =
        a.toList ++ (b.toList ++ (c ++ d ++ e ++ f).toList) := by
    intro a b c d e f
    simp only [String.toList_append, List.append_assoc]
  exact hsplit "Malformed idiom at " (Text.quoted s) " in " method ": " reason

/-- Messages about texts differ where the texts do, whatever methods and
reasons they go on with. -/
theorem site_eq_of_message_eq {s t method method' reason reason' : String}
    (h : (malformed s method reason).message = (malformed t method' reason').message) : s = t := by
  have hlist := congrArg String.toList h
  rw [toList_message_malformed, toList_message_malformed] at hlist
  exact (Text.quoted_append_inj (List.append_cancel_left hlist)).1

end UiRecovery.Error
