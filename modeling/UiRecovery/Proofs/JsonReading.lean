import Mathlib.Data.List.Basic
import UiRecovery.Json.Reader
import UiRecovery.Json.Writer

/-!
# Reading what was written

The compact text of a value is read back as that value. Every lemma has
the text go on after what was written, with anything at all after a string
and with anything that cannot continue a number after a value (`Closed`);
that is what makes the lemmas for items and fields compose.

A number with fraction or exponent does not come back: it is kept to
64 bits, and `-0` has no text of its own. So values are taken to be
`Integral`, as all values are that stand for records of the library.

The reader spends fuel, and twice the length of what was written is enough
for it (`value?_chars`): a level of nesting costs two and has brackets, an
item costs one and has a comma or a bracket.
-/

namespace UiRecovery.Json

/-! ## Strings -/

/-- How a character is read from its escaped form. Control characters
without a letter of their own come as code units. -/
def pieceOf (c : Char) : Piece :=
  if c.toNat < 0x20 ∧ c ∉ ['\x08', '\t', '\n', '\x0c', '\r'] then .unit c.toNat else .char c

theorem hexValue?_digitChar {n : Nat} (hn : n < 16) : hexValue? (Nat.digitChar n) = some n := by
  have hall : ∀ m < 16, hexValue? (Nat.digitChar m) = some m := by decide
  exact hall n hn

theorem codeUnit?_control {n : Nat} (hn : n < 0x20) :
    codeUnit? '0' '0' (Nat.digitChar (n / 16)) (Nat.digitChar (n % 16)) = some n := by
  have hzero : hexValue? '0' = some 0 := by decide
  have hhigh := hexValue?_digitChar (show n / 16 < 16 by omega)
  have hlow := hexValue?_digitChar (show n % 16 < 16 by omega)
  unfold codeUnit?
  rw [hzero, hhigh, hlow]
  show some (((0 * 16 + 0) * 16 + n / 16) * 16 + n % 16) = some n
  congr 1
  omega

theorem pieces?_unescape {e c : Char} (he : e ≠ 'u') (hc : unescape? e = some c)
    (cs : List Char) :
    pieces? ('\\' :: e :: cs) = (pieces? cs).map fun r => (.char c :: r.1, r.2) := by
  rw [pieces?, if_neg (by decide), if_pos rfl, hc]
  · cases pieces? cs <;> rfl
  · exact fun _ _ _ _ _ heq => absurd heq he

theorem pieces?_codeUnit {h₁ h₂ h₃ h₄ : Char} {n : Nat} (hn : codeUnit? h₁ h₂ h₃ h₄ = some n)
    (cs : List Char) :
    pieces? ('\\' :: 'u' :: h₁ :: h₂ :: h₃ :: h₄ :: cs) =
      (pieces? cs).map fun r => (.unit n :: r.1, r.2) := by
  rw [pieces?, if_neg (by decide), if_pos rfl, hn]
  cases pieces? cs <;> rfl

theorem pieces?_plain {c : Char} (hquote : c ≠ '"') (hslash : c ≠ '\\') (hc : ¬c.toNat < 0x20)
    (cs : List Char) :
    pieces? (c :: cs) = (pieces? cs).map fun r => (.char c :: r.1, r.2) := by
  rw [pieces?.eq_def]
  dsimp only
  rw [if_neg hquote, if_neg hslash, if_neg hc]
  cases pieces? cs <;> rfl

/-- Each character is read back as one piece. -/
theorem pieces?_escapedChar (c : Char) (cs : List Char) :
    pieces? (escapedChar c ++ cs) = (pieces? cs).map fun r => (pieceOf c :: r.1, r.2) := by
  unfold escapedChar
  split_ifs with hquote hslash hb ht hn hf hr hcontrol
  · subst hquote; exact pieces?_unescape (by decide) (by decide) cs
  · subst hslash; exact pieces?_unescape (by decide) (by decide) cs
  · subst hb; exact pieces?_unescape (by decide) (by decide) cs
  · subst ht; exact pieces?_unescape (by decide) (by decide) cs
  · subst hn; exact pieces?_unescape (by decide) (by decide) cs
  · subst hf; exact pieces?_unescape (by decide) (by decide) cs
  · subst hr; exact pieces?_unescape (by decide) (by decide) cs
  · have hpiece : pieceOf c = .unit c.toNat := if_pos ⟨hcontrol, by simp [hb, ht, hn, hf, hr]⟩
    rw [hpiece]
    exact pieces?_codeUnit (codeUnit?_control hcontrol) cs
  · have hpiece : pieceOf c = .char c := if_neg fun h => hcontrol h.1
    rw [hpiece]
    exact pieces?_plain hquote hslash hcontrol cs

theorem joinPieces?_pieceOf (c : Char) (ps : List Piece) :
    joinPieces? (pieceOf c :: ps) = (joinPieces? ps).map (c :: ·) := by
  unfold pieceOf
  split_ifs with h
  · have hhigh : isHighSurrogate c.toNat = false := by
      unfold isHighSurrogate
      rw [decide_eq_false (by omega), Bool.false_and]
    have hlow : isLowSurrogate c.toNat = false := by
      unfold isLowSurrogate
      rw [decide_eq_false (by omega), Bool.false_and]
    rw [joinPieces?.eq_def]
    dsimp only
    rw [hhigh, hlow, if_neg Bool.false_ne_true, if_neg Bool.false_ne_true, Char.ofNat_toNat]
  · rfl

theorem pieces?_quote (cs : List Char) : pieces? ('"' :: cs) = some ([], cs) := by
  rw [pieces?.eq_def]
  dsimp only
  rw [if_pos rfl]

theorem pieces?_flatMap_escapedChar (cs rest : List Char) :
    pieces? (cs.flatMap escapedChar ++ '"' :: rest) = some (cs.map pieceOf, rest) := by
  induction cs with
  | nil => exact pieces?_quote rest
  | cons c cs ih =>
      rw [List.flatMap_cons, List.append_assoc, pieces?_escapedChar, ih]
      rfl

theorem joinPieces?_map_pieceOf (cs : List Char) : joinPieces? (cs.map pieceOf) = some cs := by
  induction cs with
  | nil => rfl
  | cons c cs ih =>
      rw [List.map_cons, joinPieces?_pieceOf, ih]
      rfl

/-- A string is read back, whatever comes after it. -/
theorem stringBody?_stringChars (t : Option String) (rest : List Char) :
    ∃ body, stringChars t ++ rest = '"' :: body ∧ stringBody? body = some (t, rest) := by
  cases t with
  | none =>
      refine ⟨'\\' :: 'u' :: 'd' :: '8' :: '0' :: '0' :: '"' :: rest, rfl, ?_⟩
      have hunit : codeUnit? 'd' '8' '0' '0' = some 0xd800 := by decide
      unfold stringBody?
      rw [pieces?_codeUnit hunit, pieces?_quote]
      rfl
  | some s =>
      refine ⟨s.toList.flatMap escapedChar ++ '"' :: rest, by simp [stringChars], ?_⟩
      unfold stringBody?
      rw [pieces?_flatMap_escapedChar, Option.map_some]
      dsimp only
      rw [joinPieces?_map_pieceOf, Option.map_some, String.ofList_toList]

/-! ## Numbers -/

/-- What cannot continue a number. -/
def Closed (rest : List Char) : Prop :=
  ∀ c ∈ rest.head?, c.isDigit = false ∧ c ≠ '.' ∧ c ≠ 'e' ∧ c ≠ 'E'

theorem digits?_append {ds rest : List Char} (hds : ∀ c ∈ ds, c.isDigit = true) (hne : ds ≠ [])
    (hrest : ∀ c ∈ rest.head?, c.isDigit = false) : digits? (ds ++ rest) = some (ds, rest) := by
  have hhead : ∀ c ∈ rest.head?, ¬c.isDigit = true := fun c hc => by rw [hrest c hc]; decide
  have htake : (ds ++ rest).takeWhile Char.isDigit = ds := by
    rw [List.takeWhile_append_of_pos hds]
    cases rest with
    | nil => simp
    | cons c rest => simp [hhead c rfl]
  have hdrop : (ds ++ rest).dropWhile Char.isDigit = rest := by
    rw [List.dropWhile_append_of_pos hds]
    cases rest with
    | nil => simp
    | cons c rest => simp [hhead c rfl]
  unfold digits?
  dsimp only
  rw [htake, hdrop, if_neg (by simpa using hne)]

theorem fraction?_of_closed {rest : List Char} (hrest : Closed rest) :
    fraction? rest = some ([], rest) := by
  cases rest with
  | nil => rfl
  | cons c rest =>
      unfold fraction?
      split
      · rename_i heq
        obtain ⟨rfl, -⟩ := List.cons.inj heq
        exact absurd rfl (hrest _ rfl).2.1
      · rfl

theorem exponent?_of_closed {rest : List Char} (hrest : Closed rest) :
    exponent? rest = some (none, rest) := by
  cases rest with
  | nil => rfl
  | cons c rest =>
      exact if_neg (not_or.mpr (hrest c rfl).2.2)

/-- A number is written without a leading zero. -/
theorem head?_toDigits (n : Nat) : 0 < n → (Nat.toDigits 10 n).head? ≠ some '0' := by
  induction n using Nat.strongRecOn with
  | ind n ih =>
      intro hn
      by_cases hlt : n < 10
      · rw [Nat.toDigits_of_lt_base hlt, List.head?_cons, ne_eq, Option.some.injEq,
          Nat.digitChar_eq_zero]
        omega
      · rw [Nat.toDigits_of_base_le (by decide) (by omega),
          List.head?_append_of_ne_nil _ Nat.toDigits_ne_nil]
        exact ih (n / 10) (by omega) (by omega)

theorem unsigned?_toDigits (negative : Bool) {n : Nat} (hn : negative = true → 0 < n)
    {rest : List Char} (hrest : Closed rest) :
    unsigned? negative (Nat.toDigits 10 n ++ rest) = some (.int (signed negative n), rest) := by
  have hdigits : digits? (Nat.toDigits 10 n ++ rest) = some (Nat.toDigits 10 n, rest) :=
    digits?_append (fun c => Nat.isDigit_of_mem_toDigits (by decide) (by decide))
      Nat.toDigits_ne_nil fun c hc => (hrest c hc).1
  have hzero : ¬((Nat.toDigits 10 n).head? = some '0' ∧ 1 < (Nat.toDigits 10 n).length) := by
    rintro ⟨hhead, hlength⟩
    rcases Nat.eq_zero_or_pos n with rfl | hpos
    · exact absurd hlength (by decide)
    · exact head?_toDigits n hpos hhead
  have hminus : ¬(negative = true ∧ n = 0) := fun ⟨h, h0⟩ => by have := hn h; omega
  unfold unsigned?
  rw [hdigits]
  simp only [Option.bind_eq_bind, Option.bind_some, if_neg hzero, fraction?_of_closed hrest,
    exponent?_of_closed hrest, Nat.ofDigitChars_ten_toDigits, if_neg hminus]
  rfl

/-- What an integer starts with. -/
def Numeral (c : Char) : Prop := c = '-' ∨ c.isDigit = true

theorem Numeral.ne_of_mem {c x : Char} (hc : Numeral c)
    (hx : x ∈ [' ', '\n', '\t', '\r', '"', '[', ']', '\x7b', 'n', 't', 'f']) : c ≠ x := by
  have hall : ∀ x ∈ [' ', '\n', '\t', '\r', '"', '[', ']', '\x7b', 'n', 't', 'f'],
      ¬(x = '-' ∨ x.isDigit = true) := List.forall_iff_forall_mem.mp (by decide)
  rintro rfl
  exact hall c hx hc

theorem Numeral.isSpace_eq_false {c : Char} (hc : Numeral c) : isSpace c = false := by
  simp [isSpace, hc.ne_of_mem]

theorem toDigits_eq_cons (n : Nat) :
    ∃ c cs, Nat.toDigits 10 n = c :: cs ∧ c.isDigit = true := by
  obtain ⟨c, cs, heq⟩ := List.exists_cons_of_ne_nil (@Nat.toDigits_ne_nil n 10)
  have hmem : c ∈ Nat.toDigits 10 n := heq ▸ List.mem_cons_self
  exact ⟨c, cs, heq, Nat.isDigit_of_mem_toDigits (by decide) (by decide) hmem⟩

theorem intChars_eq_cons (i : Int) : ∃ c cs, intChars i = c :: cs ∧ Numeral c := by
  cases i with
  | ofNat n =>
      obtain ⟨c, cs, heq, hc⟩ := toDigits_eq_cons n
      exact ⟨c, cs, heq, Or.inr hc⟩
  | negSucc n => exact ⟨'-', Nat.toDigits 10 (n + 1), rfl, Or.inl rfl⟩

/-- An integer is read back. -/
theorem number?_intChars (i : Int) {rest : List Char} (hrest : Closed rest) :
    number? (intChars i ++ rest) = some (.int i, rest) := by
  cases i with
  | ofNat n =>
      have hread : unsigned? false (Nat.toDigits 10 n ++ rest) = some (.int n, rest) :=
        unsigned?_toDigits false (fun h => absurd h Bool.false_ne_true) hrest
      obtain ⟨c, cs, heq, hc⟩ := toDigits_eq_cons n
      show number? (Nat.toDigits 10 n ++ rest) = _
      rw [heq] at hread ⊢
      unfold number?
      split
      · rename_i hminus
        obtain ⟨rfl, -⟩ := List.cons.inj hminus
        exact absurd hc (by decide)
      · exact hread
  | negSucc n => exact unsigned?_toDigits true (fun _ => Nat.succ_pos n) hrest

/-! ## Blanks -/

theorem skipSpace_cons {c : Char} (hc : isSpace c = false) (cs : List Char) :
    skipSpace (c :: cs) = c :: cs := by
  unfold skipSpace
  rw [List.dropWhile_cons, hc, if_neg Bool.false_ne_true]

/-- What may stand between two tokens. -/
structure Blanks where
  chars : List Char := []
  all_isSpace : chars.all isSpace = true := by decide

theorem Blanks.skipSpace_append (b : Blanks) {c : Char} (hc : isSpace c = false)
    (cs : List Char) : skipSpace (b.chars ++ c :: cs) = c :: cs := by
  unfold skipSpace
  rw [List.dropWhile_append_of_pos (List.all_eq_true.mp b.all_isSpace)]
  exact skipSpace_cons hc cs

/-! ## Values -/

mutual

/-- No number in the value has a fraction or an exponent. -/
def Integral : Json → Prop
  | .decimal _ _ => False
  | .arr items => AllIntegral items
  | .obj fields => FieldsIntegral fields
  | _ => True

def AllIntegral : List Json → Prop
  | [] => True
  | j :: js => j.Integral ∧ AllIntegral js

def FieldsIntegral : List (Option String × Json) → Prop
  | [] => True
  | (_, j) :: fs => j.Integral ∧ FieldsIntegral fs

end

theorem stringChars_eq_cons (t : Option String) : ∃ cs, stringChars t = '"' :: cs := by
  cases t with
  | none => exact ⟨_, rfl⟩
  | some s => exact ⟨_, rfl⟩

/-- Where a value starts there is neither a blank nor a closing bracket. -/
theorem chars_eq_cons (j : Json) :
    ∃ c cs, j.chars = c :: cs ∧ isSpace c = false ∧ c ≠ ']' := by
  have hnumeral : ∀ {c}, Numeral c → isSpace c = false ∧ c ≠ ']' :=
    fun hc => ⟨hc.isSpace_eq_false, hc.ne_of_mem (by decide)⟩
  cases j with
  | null => exact ⟨_, _, rfl, by decide, by decide⟩
  | bool b => cases b <;> exact ⟨_, _, rfl, by decide, by decide⟩
  | int i =>
      obtain ⟨c, cs, heq, hc⟩ := intChars_eq_cons i
      exact ⟨c, cs, by rw [chars, heq], hnumeral hc⟩
  | decimal m e =>
      obtain ⟨c, cs, heq, hc⟩ := intChars_eq_cons m
      exact ⟨c, cs ++ 'e' :: intChars e, by rw [chars, heq]; rfl, hnumeral hc⟩
  | str t =>
      obtain ⟨cs, heq⟩ := stringChars_eq_cons t
      exact ⟨'"', cs, by rw [chars, heq], by decide, by decide⟩
  | arr js => cases js <;> exact ⟨_, _, rfl, by decide, by decide⟩
  | obj fs => cases fs <;> exact ⟨_, _, rfl, by decide, by decide⟩

/-! One step of each loop of the reader, with blanks wherever it skips them. -/

theorem value?_numeral {c : Char} (hc : Numeral c) (fuel : Nat) (cs : List Char) :
    value? (fuel + 1) (c :: cs) = number? (c :: cs) := by
  rw [value?, if_neg (hc.ne_of_mem (by decide)), if_neg (hc.ne_of_mem (by decide)),
    if_neg (hc.ne_of_mem (by decide)), if_neg (hc.ne_of_mem (by decide)),
    if_neg (hc.ne_of_mem (by decide)), if_neg (hc.ne_of_mem (by decide))]

theorem value?_arr (b : Blanks) {fuel : Nat} {c : Char} {cs rest : List Char} {js : List Json}
    (hspace : isSpace c = false) (hclose : c ≠ ']')
    (hjs : items? fuel (c :: cs) = some (js, rest)) :
    value? (fuel + 1) ('[' :: (b.chars ++ c :: cs)) = some (.arr js, rest) := by
  rw [value?, if_neg (by decide), if_pos rfl, b.skipSpace_append hspace]
  split
  · rename_i heq
    exact absurd (List.cons.inj heq).1 hclose
  · rw [hjs]
    rfl

theorem value?_obj (b : Blanks) {fuel : Nat} {cs rest : List Char}
    {fs : List (Option String × Json)} (hfs : fields? fuel ('"' :: cs) = some (fs, rest)) :
    value? (fuel + 1) ('\x7b' :: (b.chars ++ '"' :: cs)) = some (.obj fs, rest) := by
  rw [value?, if_neg (by decide), if_neg (by decide), if_pos rfl, b.skipSpace_append (by decide)]
  split
  · rename_i heq
    exact absurd (List.cons.inj heq).1 (by decide)
  · rw [hfs]
    rfl

theorem items?_last (b : Blanks) {fuel : Nat} {j : Json} {cs rest : List Char}
    (hj : value? fuel cs = some (j, b.chars ++ ']' :: rest)) :
    items? (fuel + 1) cs = some ([j], rest) := by
  rw [items?, hj]
  simp only [Option.bind_eq_bind, Option.bind_some,
    b.skipSpace_append (show isSpace ']' = false by decide)]
  rfl

theorem items?_more (b b' : Blanks) {fuel : Nat} {j : Json} {js : List Json} {c : Char}
    {cs ds rest : List Char}
    (hj : value? fuel cs = some (j, b.chars ++ ',' :: (b'.chars ++ c :: ds)))
    (hspace : isSpace c = false) (hjs : items? fuel (c :: ds) = some (js, rest)) :
    items? (fuel + 1) cs = some (j :: js, rest) := by
  rw [items?, hj]
  simp only [Option.bind_eq_bind, Option.bind_some, b'.skipSpace_append hspace, hjs,
    b.skipSpace_append (show isSpace ',' = false by decide)]
  rfl

/-- What the reader of a field goes through before the value: the name, and
a colon between blanks. -/
def ReadsName (body : List Char) (key : Option String) (c : Char) (cs : List Char) : Prop :=
  ∃ b b' : Blanks, stringBody? body = some (key, b.chars ++ ':' :: (b'.chars ++ c :: cs)) ∧
    isSpace c = false

theorem fields?_last (b : Blanks) {fuel : Nat} {key : Option String} {j : Json} {c : Char}
    {body cs rest : List Char} (hkey : ReadsName body key c cs)
    (hj : value? fuel (c :: cs) = some (j, b.chars ++ '\x7d' :: rest)) :
    fields? (fuel + 1) ('"' :: body) = some ([(key, j)], rest) := by
  obtain ⟨colon, colon', hbody, hspace⟩ := hkey
  rw [fields?, hbody]
  simp only [Option.bind_eq_bind, Option.bind_some, colon'.skipSpace_append hspace, hj,
    colon.skipSpace_append (show isSpace ':' = false by decide),
    b.skipSpace_append (show isSpace '\x7d' = false by decide)]
  rfl

theorem fields?_more (b b' : Blanks) {fuel : Nat} {key : Option String} {j : Json}
    {fs : List (Option String × Json)} {c : Char} {body cs ds rest : List Char}
    (hkey : ReadsName body key c cs)
    (hj : value? fuel (c :: cs) = some (j, b.chars ++ ',' :: (b'.chars ++ '"' :: ds)))
    (hfs : fields? fuel ('"' :: ds) = some (fs, rest)) :
    fields? (fuel + 1) ('"' :: body) = some ((key, j) :: fs, rest) := by
  obtain ⟨colon, colon', hbody, hspace⟩ := hkey
  rw [fields?, hbody]
  simp only [Option.bind_eq_bind, Option.bind_some, colon'.skipSpace_append hspace, hj, hfs,
    colon.skipSpace_append (show isSpace ':' = false by decide),
    b.skipSpace_append (show isSpace ',' = false by decide),
    b'.skipSpace_append (show isSpace '"' = false by decide)]
  rfl

theorem closed_cons {c : Char} (hc : c ∈ [',', ']', '\x7d']) (cs : List Char) :
    Closed (c :: cs) := by
  have hall : ∀ c ∈ [',', ']', '\x7d'], c.isDigit = false ∧ c ≠ '.' ∧ c ≠ 'e' ∧ c ≠ 'E' :=
    List.forall_iff_forall_mem.mp (by decide)
  rintro _ ⟨⟩
  exact hall c hc

theorem length_chars_pos (j : Json) : 0 < j.chars.length := by
  obtain ⟨c, cs, heq, -⟩ := j.chars_eq_cons
  rw [heq]
  exact Nat.succ_pos _

theorem length_itemChars_pos (js : List Json) : 0 < (itemChars js).length := by
  cases js <;> exact Nat.succ_pos _

theorem length_fieldChars_pos (fs : List (Option String × Json)) : 0 < (fieldChars fs).length := by
  cases fs <;> exact Nat.succ_pos _

/-! The texts of containers, taken apart from the left. -/

theorem chars_arr_append (j : Json) (js : List Json) (rest : List Char) :
    (arr (j :: js)).chars ++ rest = '[' :: (j.chars ++ (itemChars js ++ rest)) := by
  simp [chars]

theorem itemChars_append (j : Json) (js : List Json) (rest : List Char) :
    itemChars (j :: js) ++ rest = ',' :: (j.chars ++ (itemChars js ++ rest)) := by
  simp [itemChars]

theorem chars_obj_append (key : Option String) (j : Json) (fs : List (Option String × Json))
    (rest : List Char) :
    (obj ((key, j) :: fs)).chars ++ rest =
      '\x7b' :: (stringChars key ++ ':' :: (j.chars ++ (fieldChars fs ++ rest))) := by
  simp [chars]

theorem fieldChars_append (key : Option String) (j : Json) (fs : List (Option String × Json))
    (rest : List Char) :
    fieldChars ((key, j) :: fs) ++ rest =
      ',' :: (stringChars key ++ ':' :: (j.chars ++ (fieldChars fs ++ rest))) := by
  simp [fieldChars]

mutual

/-- A value is read back from its text. -/
theorem value?_chars (j : Json) (fuel : Nat) (rest : List Char) (hj : j.Integral)
    (hfuel : 2 * j.chars.length ≤ fuel) (hrest : Closed rest) :
    value? fuel (j.chars ++ rest) = some (j, rest) := by
  have hpos := j.length_chars_pos
  obtain ⟨fuel, rfl⟩ := Nat.exists_eq_add_of_lt (show 0 < fuel by omega)
  rw [Nat.zero_add]
  cases j with
  | null => rfl
  | bool b => cases b <;> rfl
  | int i =>
      obtain ⟨c, cs, heq, hc⟩ := intChars_eq_cons i
      have hread := number?_intChars i hrest
      rw [chars, heq] at *
      exact (value?_numeral hc fuel _).trans hread
  | decimal m e => cases hj
  | str t =>
      obtain ⟨body, heq, hread⟩ := stringBody?_stringChars t rest
      rw [chars, heq, value?, if_pos rfl, hread]
      rfl
  | arr js =>
      cases js with
      | nil => rfl
      | cons j js =>
          have hlength : (arr (j :: js)).chars.length =
              j.chars.length + (itemChars js).length + 1 := by
            simp [chars]
          have hitems := items?_chars j js fuel rest hj.1 hj.2 (by omega)
          obtain ⟨c, cs, heq, hspace, hclose⟩ := j.chars_eq_cons
          rw [chars_arr_append]
          rw [heq] at hitems ⊢
          exact value?_arr {} hspace hclose hitems
  | obj fs =>
      cases fs with
      | nil => rfl
      | cons f fs =>
          cases f with | mk key j =>
          have hlength : j.chars.length + (fieldChars fs).length + 1 ≤
              (obj ((key, j) :: fs)).chars.length := by
            simp only [chars, List.length_append, List.length_cons]
            omega
          have hfields := fields?_chars key j fs fuel rest hj.1 hj.2 (by omega)
          obtain ⟨body, hbody, -⟩ :=
            stringBody?_stringChars key (':' :: (j.chars ++ (fieldChars fs ++ rest)))
          rw [chars_obj_append]
          rw [hbody] at hfields ⊢
          exact value?_obj {} hfields
termination_by sizeOf j

/-- Items are read back from the first to the closing bracket. -/
theorem items?_chars (j : Json) (js : List Json) (fuel : Nat) (rest : List Char)
    (hj : j.Integral) (hjs : AllIntegral js)
    (hfuel : 2 * (j.chars.length + (itemChars js).length) ≤ fuel) :
    items? fuel (j.chars ++ (itemChars js ++ rest)) = some (j :: js, rest) := by
  have hpos := length_itemChars_pos js
  obtain ⟨fuel, rfl⟩ := Nat.exists_eq_add_of_lt (show 0 < fuel by omega)
  rw [Nat.zero_add]
  cases js with
  | nil => exact items?_last {} (value?_chars j fuel _ hj (by omega) (closed_cons (by decide) _))
  | cons j' js =>
      have hlength : (itemChars (j' :: js)).length =
          j'.chars.length + (itemChars js).length + 1 := by
        simp [itemChars]
      have hvalue := value?_chars j fuel (itemChars (j' :: js) ++ rest) hj (by omega)
        (closed_cons (by decide) _)
      have hitems := items?_chars j' js fuel rest hjs.1 hjs.2 (by omega)
      obtain ⟨c, cs, heq, hspace, -⟩ := j'.chars_eq_cons
      rw [itemChars_append] at hvalue ⊢
      rw [heq] at hvalue hitems ⊢
      exact items?_more {} {} hvalue hspace hitems
termination_by sizeOf j + sizeOf js

/-- Fields are read back from the first name to the closing brace. -/
theorem fields?_chars (key : Option String) (j : Json) (fs : List (Option String × Json))
    (fuel : Nat) (rest : List Char) (hj : j.Integral) (hfs : FieldsIntegral fs)
    (hfuel : 2 * (j.chars.length + (fieldChars fs).length) ≤ fuel) :
    fields? fuel (stringChars key ++ ':' :: (j.chars ++ (fieldChars fs ++ rest))) =
      some ((key, j) :: fs, rest) := by
  have hpos := length_fieldChars_pos fs
  obtain ⟨fuel, rfl⟩ := Nat.exists_eq_add_of_lt (show 0 < fuel by omega)
  obtain ⟨body, hbody, hkey⟩ :=
    stringBody?_stringChars key (':' :: (j.chars ++ (fieldChars fs ++ rest)))
  obtain ⟨c, cs, heq, hspace, -⟩ := j.chars_eq_cons
  rw [Nat.zero_add, hbody]
  cases fs with
  | nil =>
      have hvalue := value?_chars j fuel (fieldChars [] ++ rest) hj (by omega)
        (closed_cons (by decide) _)
      rw [heq] at hkey hvalue
      exact fields?_last {} ⟨{}, {}, hkey, hspace⟩ hvalue
  | cons f fs =>
      cases f with | mk key' j' =>
      have hlength : j'.chars.length + (fieldChars fs).length + 1 ≤
          (fieldChars ((key', j') :: fs)).length := by
        simp only [fieldChars, List.length_append, List.length_cons]
        omega
      have hvalue := value?_chars j fuel (fieldChars ((key', j') :: fs) ++ rest) hj (by omega)
        (closed_cons (by decide) _)
      have hfields := fields?_chars key' j' fs fuel rest hfs.1 hfs.2 (by omega)
      obtain ⟨body', hbody', -⟩ :=
        stringBody?_stringChars key' (':' :: (j'.chars ++ (fieldChars fs ++ rest)))
      rw [fieldChars_append, hbody', heq] at hkey hvalue
      rw [hbody'] at hfields
      exact fields?_more {} {} ⟨{}, {}, hkey, hspace⟩ hvalue hfields
termination_by sizeOf j + sizeOf fs

end

/-- The text of a value denotes this value. -/
theorem parse?_render {j : Json} (hj : j.Integral) : parse? j.render = some j := by
  have hread := value?_chars j (2 * j.chars.length + 2) [] hj (by omega) (fun _ hc => nomatch hc)
  obtain ⟨c, cs, heq, hspace, -⟩ := j.chars_eq_cons
  have hskip : skipSpace j.chars = j.chars := by rw [heq, skipSpace_cons hspace]
  rw [List.append_nil] at hread
  unfold parse? render
  rw [String.toList_ofList]
  dsimp only
  rw [hskip, hread]
  rfl

end UiRecovery.Json
