import UiRecovery.Proofs.JsonReading

/-!
# Spellings

A JSON value has many texts. Blanks may stand between any two tokens, a
character of a string may be written as an escape, and numbers have
fractions and exponents. A `Spelling` is such a text before it is put
together: a tree with the blanks, escapes and digits that are chosen.
`Spelling.chars` puts it together and `Spelling.denoted` says what it
denotes.

`parse?_text` is the main statement: the reader finds in every text what
it denotes. As for compact texts, each part is followed by text that may be
anything that cannot continue a number, and twice the length of what is
read is fuel enough (`Reads`). The proof has one case for each
production of the grammar.

What follows a part in its text decides how the tree is cut: items and
fields end with their closing bracket, since that is where the loops of the
reader end.
-/

namespace UiRecovery.Json

/-- Blanks do not continue a number. -/
theorem Blanks.closed_append (b : Blanks) {rest : List Char} (hrest : Closed rest) :
    Closed (b.chars ++ rest) := by
  have hspace : ∀ c, isSpace c = true → c.isDigit = false ∧ c ≠ '.' ∧ c ≠ 'e' ∧ c ≠ 'E' := by
    intro c hc
    obtain rfl | rfl | rfl | rfl : c = ' ' ∨ c = '\n' ∨ c = '\t' ∨ c = '\r' := by
      simpa [isSpace, or_assoc] using hc
    all_goals decide
  cases hb : b.chars with
  | nil => exact hrest
  | cons c cs =>
      have hall := b.all_isSpace
      rw [hb, List.all_cons, Bool.and_eq_true] at hall
      rintro _ ⟨⟩
      exact hspace c hall.1

/-! ## Strings -/

/-- A character of a string as it is written, or half of one: as itself, as
a short escape, or as the four digits of a code unit. -/
inductive StringPart where
  | plain (c : Char) (hc : c ≠ '"' ∧ c ≠ '\\' ∧ ¬c.toNat < 0x20)
  | short (letter c : Char) (hc : unescape? letter = some c)
  | unit (h₁ h₂ h₃ h₄ : Char) (code : Nat) (hcode : codeUnit? h₁ h₂ h₃ h₄ = some code)

namespace StringPart

def chars : StringPart → List Char
  | plain c _ => [c]
  | short letter _ _ => ['\\', letter]
  | unit h₁ h₂ h₃ h₄ _ _ => ['\\', 'u', h₁, h₂, h₃, h₄]

def piece : StringPart → Piece
  | plain c _ => .char c
  | short _ c _ => .char c
  | unit _ _ _ _ code _ => .unit code

theorem pieces?_append (p : StringPart) (cs : List Char) :
    pieces? (p.chars ++ cs) = (pieces? cs).map fun r => (p.piece :: r.1, r.2) := by
  cases p with
  | plain c hc => exact pieces?_plain hc.1 hc.2.1 hc.2.2 cs
  | short letter c hc =>
      have hletter : letter ≠ 'u' := by
        rintro rfl
        cases hc
      exact pieces?_unescape hletter hc cs
  | unit h₁ h₂ h₃ h₄ code hcode => exact pieces?_codeUnit hcode cs

theorem pieces?_flatMap (parts : List StringPart) (rest : List Char) :
    pieces? (parts.flatMap chars ++ '"' :: rest) = some (parts.map piece, rest) := by
  induction parts with
  | nil => exact pieces?_quote rest
  | cons p parts ih =>
      rw [List.flatMap_cons, List.append_assoc, pieces?_append, ih]
      rfl

end StringPart

/-- The text that a string denotes, if its surrogates pair up. -/
def stringText (parts : List StringPart) : Option String :=
  (joinPieces? (parts.map StringPart.piece)).map String.ofList

theorem stringBody?_parts (parts : List StringPart) (rest : List Char) :
    stringBody? (parts.flatMap StringPart.chars ++ '"' :: rest) =
      some (stringText parts, rest) := by
  unfold stringBody?
  rw [StringPart.pieces?_flatMap]
  rfl

/-! ## Numbers -/

structure Digits where
  chars : List Char
  ne_nil : chars ≠ [] := by decide
  all_isDigit : chars.all Char.isDigit = true := by decide

theorem Digits.digits?_append (ds : Digits) {rest : List Char}
    (hrest : ∀ c ∈ rest.head?, c.isDigit = false) :
    digits? (ds.chars ++ rest) = some (ds.chars, rest) :=
  Json.digits?_append (List.all_eq_true.mp ds.all_isDigit) ds.ne_nil hrest

theorem Digits.eq_cons (ds : Digits) : ∃ c cs, ds.chars = c :: cs ∧ c.isDigit = true := by
  obtain ⟨c, cs, heq⟩ := List.exists_cons_of_ne_nil ds.ne_nil
  have hall := ds.all_isDigit
  rw [heq, List.all_cons, Bool.and_eq_true] at hall
  exact ⟨c, cs, heq, hall.1⟩

/-- Digits are not taken for a sign. -/
theorem Digits.append_ne_cons (ds : Digits) {c : Char} (hc : c.isDigit = false)
    (rest cs : List Char) : ds.chars ++ rest ≠ c :: cs := by
  obtain ⟨d, ds', hcons, hd⟩ := ds.eq_cons
  intro heq
  rw [hcons, List.cons_append, List.cons.injEq] at heq
  obtain ⟨rfl, -⟩ := heq
  exact Bool.false_ne_true (hc.symm.trans hd)

inductive Sign where
  | plus
  | minus
deriving DecidableEq

def Sign.char : Sign → Char
  | plus => '+'
  | minus => '-'

/-- The exponent of a number, after an `e` of either case. -/
structure Exponent where
  capital : Bool := false
  sign : Option Sign := none
  digits : Digits

namespace Exponent

def mark (e : Exponent) : Char := if e.capital then 'E' else 'e'

def chars (e : Exponent) : List Char :=
  e.mark :: ((e.sign.map Sign.char).toList ++ e.digits.chars)

def value (e : Exponent) : Int :=
  signed (e.sign = some .minus) (Nat.ofDigitChars 10 e.digits.chars 0)

theorem mark_eq (e : Exponent) : e.mark = 'e' ∨ e.mark = 'E' := by
  unfold mark
  cases e.capital with
  | true => exact Or.inr rfl
  | false => exact Or.inl rfl

theorem exponent?_append (e : Exponent) {rest : List Char} (hrest : Closed rest) :
    exponent? (e.chars ++ rest) = some (some e.value, rest) := by
  have hdigits := e.digits.digits?_append fun c hc => (hrest c hc).1
  unfold chars value
  rw [List.cons_append, List.append_assoc]
  cases e.sign with
  | some sign =>
      rw [Option.map_some, Option.toList_some, List.singleton_append]
      cases sign with
      | plus =>
          rw [Sign.char, exponent?, if_pos e.mark_eq, hdigits]
          rfl
      | minus =>
          rw [Sign.char, exponent?, if_pos e.mark_eq, hdigits]
          rfl
  | none =>
      rw [Option.map_none, Option.toList_none, List.nil_append, exponent?, if_pos e.mark_eq,
        hdigits]
      · rfl
      · exact e.digits.append_ne_cons (by decide) rest
      · exact e.digits.append_ne_cons (by decide) rest

end Exponent

/-- A number as it is written. Its whole part has no leading zero. -/
structure Number where
  negative : Bool := false
  whole : Digits
  places : Option Digits := none
  exponent : Option Exponent := none
  no_leading_zero : ¬(whole.chars.head? = some '0' ∧ 1 < whole.chars.length) := by decide

namespace Number

def fractionChars (n : Number) : List Char := n.places.elim [] fun ds => '.' :: ds.chars

def exponentChars (n : Number) : List Char := n.exponent.elim [] Exponent.chars

def unsignedChars (n : Number) : List Char :=
  n.whole.chars ++ (n.fractionChars ++ n.exponentChars)

def chars (n : Number) : List Char :=
  if n.negative then '-' :: n.unsignedChars else n.unsignedChars

/-- A number without point and exponent is an integer, unless it is `-0`.
Of any other one the digits are kept that fit. -/
def value (n : Number) : Json :=
  match n.places, n.exponent with
  | none, none =>
    let m := Nat.ofDigitChars 10 n.whole.chars 0
    if n.negative ∧ m = 0 then .decimal 0 0 else .int (signed n.negative m)
  | places, exponent =>
    let (m, power) := leadingDigits n.whole.chars (places.elim [] Digits.chars)
    .decimal (signed n.negative m) (power + (exponent.map Exponent.value).getD 0)

theorem exponent?_append (n : Number) {rest : List Char} (hrest : Closed rest) :
    exponent? (n.exponentChars ++ rest) = some (n.exponent.map Exponent.value, rest) := by
  unfold exponentChars
  cases n.exponent with
  | none => exact exponent?_of_closed hrest
  | some e => exact e.exponent?_append hrest

/-- The exponent ends the places, and cannot be taken for a point. -/
theorem head?_exponentChars_append (n : Number) {rest : List Char} (hrest : Closed rest) :
    ∀ c ∈ (n.exponentChars ++ rest).head?, c.isDigit = false ∧ c ≠ '.' := by
  unfold exponentChars
  cases n.exponent with
  | none => exact fun c hc => ⟨(hrest c hc).1, (hrest c hc).2.1⟩
  | some e =>
      rintro _ ⟨⟩
      obtain h | h := e.mark_eq <;> rw [h] <;> decide

theorem fraction?_append (n : Number) {rest : List Char}
    (hrest : ∀ c ∈ rest.head?, c.isDigit = false ∧ c ≠ '.') :
    fraction? (n.fractionChars ++ rest) = some (n.places.elim [] Digits.chars, rest) := by
  unfold fractionChars
  cases n.places with
  | some ds => exact ds.digits?_append fun c hc => (hrest c hc).1
  | none =>
      show fraction? rest = some ([], rest)
      unfold fraction?
      split
      · exact absurd rfl (hrest _ rfl).2
      · rfl

theorem unsigned?_append (n : Number) {rest : List Char} (hrest : Closed rest) :
    unsigned? n.negative (n.unsignedChars ++ rest) = some (n.value, rest) := by
  have htail := n.head?_exponentChars_append hrest
  have hfraction := n.fraction?_append htail
  have hexponent := n.exponent?_append hrest
  have hwhole : digits? (n.whole.chars ++ (n.fractionChars ++ (n.exponentChars ++ rest))) =
      some (n.whole.chars, n.fractionChars ++ (n.exponentChars ++ rest)) := by
    refine n.whole.digits?_append ?_
    unfold fractionChars
    cases n.places with
    | none => exact fun c hc => (htail c hc).1
    | some ds =>
        rintro _ ⟨⟩
        decide
  unfold unsigned? unsignedChars value
  rw [List.append_assoc, List.append_assoc, hwhole]
  simp only [Option.bind_eq_bind, Option.bind_some, if_neg n.no_leading_zero, hfraction, hexponent]
  cases n.places with
  | none =>
      cases n.exponent with
      | none =>
          dsimp only [Option.elim, Option.map_none]
          split <;> rfl
      | some e => rfl
  | some ds =>
      obtain ⟨d, cs, hcons, -⟩ := ds.eq_cons
      dsimp only [Option.elim]
      rw [hcons]
      rfl

theorem number?_append (n : Number) {rest : List Char} (hrest : Closed rest) :
    number? (n.chars ++ rest) = some (n.value, rest) := by
  have hread := n.unsigned?_append hrest
  unfold chars
  cases hnegative : n.negative with
  | true =>
      rw [hnegative] at hread
      exact hread
  | false =>
      rw [hnegative] at hread
      rw [if_neg Bool.false_ne_true, number?]
      · exact hread
      · rw [unsignedChars, List.append_assoc]
        exact n.whole.append_ne_cons (by decide) _

theorem chars_eq_cons (n : Number) : ∃ c cs, n.chars = c :: cs ∧ Numeral c := by
  obtain ⟨c, cs, hcons, hc⟩ := n.whole.eq_cons
  unfold chars
  split
  · exact ⟨'-', n.unsignedChars, rfl, Or.inl rfl⟩
  · refine ⟨c, cs ++ (n.fractionChars ++ n.exponentChars), ?_, Or.inr hc⟩
    rw [unsignedChars, hcons]
    rfl

end Number

/-! ## Values -/

/-- What the reader has a loop for: a value, one or more items and their
closing bracket, and one or more fields and their closing brace. -/
inductive Part where
  | value
  | items
  | fields

def Part.Value : Part → Type
  | value => Json
  | items => List Json
  | fields => List (Option String × Json)

def Part.read? : (i : Part) → Nat → List Char → Option (i.Value × List Char)
  | value => value?
  | items => items?
  | fields => fields?

/-- The name of a field and the colon after it. -/
structure Name where
  parts : List StringPart
  before : Blanks := {}
  after : Blanks := {}

def Name.chars (n : Name) : List Char :=
  '"' :: (n.parts.flatMap StringPart.chars ++ '"' :: (n.before.chars ++ ':' :: n.after.chars))

theorem Name.readsName (n : Name) {c : Char} (hc : isSpace c = false) (cs : List Char) :
    ∃ body, n.chars ++ c :: cs = '"' :: body ∧ ReadsName body (stringText n.parts) c cs := by
  refine ⟨n.parts.flatMap StringPart.chars ++
    '"' :: (n.before.chars ++ ':' :: (n.after.chars ++ c :: cs)), by simp [chars], ?_⟩
  exact ⟨n.before, n.after, stringBody?_parts _ _, hc⟩

/-- How a part is written. A blank has its place wherever the reader skips
some, and nothing else is left open but the choice of tokens. -/
inductive Spelling : Part → Type where
  | null : Spelling .value
  | bool (b : Bool) : Spelling .value
  | number (n : Number) : Spelling .value
  | str (parts : List StringPart) : Spelling .value
  | emptyArr (inside : Blanks) : Spelling .value
  | arr (before : Blanks) (items : Spelling .items) : Spelling .value
  | emptyObj (inside : Blanks) : Spelling .value
  | obj (before : Blanks) (fields : Spelling .fields) : Spelling .value
  | lastItem (item : Spelling .value) (after : Blanks) : Spelling .items
  | nextItem (item : Spelling .value) (after before : Blanks) (items : Spelling .items) :
      Spelling .items
  | lastField (name : Name) (value : Spelling .value) (after : Blanks) : Spelling .fields
  | nextField (name : Name) (value : Spelling .value) (after before : Blanks)
      (fields : Spelling .fields) : Spelling .fields

namespace Spelling

@[simp]
def chars {i : Part} : Spelling i → List Char
  | null => ['n', 'u', 'l', 'l']
  | bool true => ['t', 'r', 'u', 'e']
  | bool false => ['f', 'a', 'l', 's', 'e']
  | number n => n.chars
  | str parts => '"' :: (parts.flatMap StringPart.chars ++ ['"'])
  | emptyArr inside => '[' :: (inside.chars ++ [']'])
  | arr before items => '[' :: (before.chars ++ items.chars)
  | emptyObj inside => '\x7b' :: (inside.chars ++ ['\x7d'])
  | obj before fields => '\x7b' :: (before.chars ++ fields.chars)
  | lastItem item after => item.chars ++ (after.chars ++ [']'])
  | nextItem item after before items =>
      item.chars ++ (after.chars ++ ',' :: (before.chars ++ items.chars))
  | lastField name value after => name.chars ++ (value.chars ++ (after.chars ++ ['\x7d']))
  | nextField name value after before fields =>
      name.chars ++ (value.chars ++ (after.chars ++ ',' :: (before.chars ++ fields.chars)))

def denoted {i : Part} : Spelling i → i.Value
  | null => Json.null
  | bool b => Json.bool b
  | number n => n.value
  | str parts => Json.str (stringText parts)
  | emptyArr _ => Json.arr []
  | arr _ items => Json.arr items.denoted
  | emptyObj _ => Json.obj []
  | obj _ fields => Json.obj fields.denoted
  | lastItem item _ => [item.denoted]
  | nextItem item _ _ items => item.denoted :: items.denoted
  | lastField name value _ => [(stringText name.parts, value.denoted)]
  | nextField name value _ _ fields => (stringText name.parts, value.denoted) :: fields.denoted

/-- Where a part starts there is neither a blank nor a closing bracket. -/
theorem chars_eq_cons {i : Part} (t : Spelling i) :
    ∃ c cs, t.chars = c :: cs ∧ isSpace c = false ∧ c ≠ ']' := by
  induction t with
  | number n =>
      obtain ⟨c, cs, heq, hc⟩ := n.chars_eq_cons
      exact ⟨c, cs, heq, hc.isSpace_eq_false, hc.ne_of_mem (by decide)⟩
  | bool b => cases b <;> exact ⟨_, _, rfl, by decide, by decide⟩
  | lastItem item after ih =>
      obtain ⟨c, cs, heq, hc⟩ := ih
      exact ⟨c, cs ++ (after.chars ++ [']']), by rw [chars, heq]; rfl, hc⟩
  | nextItem item after before items ih =>
      obtain ⟨c, cs, heq, hc⟩ := ih
      exact ⟨c, cs ++ (after.chars ++ ',' :: (before.chars ++ items.chars)),
        by rw [chars, heq]; rfl, hc⟩
  | _ => exact ⟨_, _, rfl, by decide, by decide⟩

theorem length_chars_pos {i : Part} (t : Spelling i) : 0 < t.chars.length := by
  obtain ⟨c, cs, heq, -⟩ := t.chars_eq_cons
  rw [heq]
  exact Nat.succ_pos _

/-- Fields start with a name. -/
theorem fields_eq_cons (t : Spelling .fields) : ∃ cs, t.chars = '"' :: cs := by
  cases t with
  | lastField name value after => exact ⟨_, rfl⟩
  | nextField name value after before fields => exact ⟨_, rfl⟩

/-! The reader on each production, from the reader on its parts. -/

/-- The reader finds in a part what it denotes. -/
def Reads {i : Part} (t : Spelling i) : Prop :=
  ∀ (fuel : Nat) (rest : List Char), 2 * t.chars.length ≤ fuel + 1 → Closed rest →
    i.read? (fuel + 1) (t.chars ++ rest) = some (t.denoted, rest)

theorem Reads.of_le {i : Part} {t : Spelling i} (h : t.Reads) {fuel : Nat} {rest : List Char}
    (hfuel : 2 * t.chars.length ≤ fuel) (hrest : Closed rest) :
    i.read? fuel (t.chars ++ rest) = some (t.denoted, rest) := by
  have hpos := t.length_chars_pos
  obtain ⟨n, rfl⟩ := Nat.exists_eq_add_of_lt (show 0 < fuel by omega)
  rw [Nat.zero_add] at hfuel ⊢
  exact h n rest hfuel hrest

theorem reads_number (n : Number) : (number n).Reads := by
  intro fuel rest _ hrest
  obtain ⟨c, cs, heq, hc⟩ := n.chars_eq_cons
  have hread := n.number?_append hrest
  show value? (fuel + 1) (n.chars ++ rest) = some (n.value, rest)
  rw [heq] at hread ⊢
  exact (value?_numeral hc fuel _).trans hread

theorem reads_str (parts : List StringPart) : (str parts).Reads := by
  intro fuel rest _ _
  have htext : (str parts).chars ++ rest =
      '"' :: (parts.flatMap StringPart.chars ++ '"' :: rest) := by simp
  show value? (fuel + 1) ((str parts).chars ++ rest) = some (.str (stringText parts), rest)
  rw [htext, value?, if_pos rfl, stringBody?_parts]
  rfl

theorem reads_emptyArr (inside : Blanks) : (emptyArr inside).Reads := by
  intro fuel rest _ _
  have htext : (emptyArr inside).chars ++ rest = '[' :: (inside.chars ++ ']' :: rest) := by
    simp
  show value? (fuel + 1) ((emptyArr inside).chars ++ rest) = some (.arr [], rest)
  rw [htext, value?, if_neg (by decide), if_pos rfl, inside.skipSpace_append (by decide)]
  rfl

theorem reads_emptyObj (inside : Blanks) : (emptyObj inside).Reads := by
  intro fuel rest _ _
  have htext : (emptyObj inside).chars ++ rest = '\x7b' :: (inside.chars ++ '\x7d' :: rest) := by
    simp
  show value? (fuel + 1) ((emptyObj inside).chars ++ rest) = some (.obj [], rest)
  rw [htext, value?, if_neg (by decide), if_neg (by decide), if_pos rfl,
    inside.skipSpace_append (by decide)]
  rfl

theorem reads_arr (before : Blanks) {items : Spelling .items} (h : items.Reads) :
    (arr before items).Reads := by
  intro fuel rest hfuel hrest
  have htext : (arr before items).chars ++ rest =
      '[' :: (before.chars ++ (items.chars ++ rest)) := by simp
  simp only [chars, List.length_cons, List.length_append] at hfuel
  have hitems : items? fuel (items.chars ++ rest) = some (items.denoted, rest) :=
    h.of_le (by omega) hrest
  obtain ⟨c, cs, heq, hspace, hclose⟩ := items.chars_eq_cons
  rw [htext]
  rw [heq] at hitems ⊢
  exact value?_arr before hspace hclose hitems

theorem reads_obj (before : Blanks) {fields : Spelling .fields} (h : fields.Reads) :
    (obj before fields).Reads := by
  intro fuel rest hfuel hrest
  have htext : (obj before fields).chars ++ rest =
      '\x7b' :: (before.chars ++ (fields.chars ++ rest)) := by simp
  simp only [chars, List.length_cons, List.length_append] at hfuel
  have hfields : fields? fuel (fields.chars ++ rest) = some (fields.denoted, rest) :=
    h.of_le (by omega) hrest
  obtain ⟨cs, heq⟩ := fields.fields_eq_cons
  rw [htext]
  rw [heq] at hfields ⊢
  exact value?_obj before hfields

theorem reads_lastItem {item : Spelling .value} (h : item.Reads) (after : Blanks) :
    (lastItem item after).Reads := by
  intro fuel rest hfuel _
  have htext : (lastItem item after).chars ++ rest =
      item.chars ++ (after.chars ++ ']' :: rest) := by simp
  simp only [chars, List.length_cons, List.length_append] at hfuel
  rw [htext]
  exact items?_last after (h.of_le (by omega)
    (after.closed_append (closed_cons (by decide) rest)))

theorem reads_nextItem {item : Spelling .value} {items : Spelling .items} (h : item.Reads)
    (after before : Blanks) (hrest : items.Reads) : (nextItem item after before items).Reads := by
  intro fuel rest hfuel hclosed
  let tail := ',' :: (before.chars ++ (items.chars ++ rest))
  have htext : (nextItem item after before items).chars ++ rest =
      item.chars ++ (after.chars ++ tail) := by simp [tail]
  simp only [chars, List.length_cons, List.length_append] at hfuel
  have hitem : value? fuel (item.chars ++ (after.chars ++ tail)) =
      some (item.denoted, after.chars ++ tail) :=
    h.of_le (by omega) (after.closed_append (closed_cons (by decide) _))
  have hitems : items? fuel (items.chars ++ rest) = some (items.denoted, rest) :=
    hrest.of_le (by omega) hclosed
  obtain ⟨c, cs, heq, hspace, -⟩ := items.chars_eq_cons
  rw [htext]
  simp only [tail, heq, List.cons_append] at hitem hitems ⊢
  exact items?_more after before hitem hspace hitems

theorem reads_lastField (name : Name) {value : Spelling .value} (h : value.Reads)
    (after : Blanks) : (lastField name value after).Reads := by
  intro fuel rest hfuel _
  let tail := '\x7d' :: rest
  have htext : (lastField name value after).chars ++ rest =
      name.chars ++ (value.chars ++ (after.chars ++ tail)) := by simp [tail]
  simp only [chars, List.length_cons, List.length_append] at hfuel
  have hvalue : value? fuel (value.chars ++ (after.chars ++ tail)) =
      some (value.denoted, after.chars ++ tail) :=
    h.of_le (by omega) (after.closed_append (closed_cons (by decide) _))
  obtain ⟨c, cs, heq, hspace, -⟩ := value.chars_eq_cons
  obtain ⟨body, hbody, hname⟩ := name.readsName hspace (cs ++ (after.chars ++ tail))
  rw [htext]
  rw [heq, List.cons_append] at hvalue ⊢
  rw [hbody]
  exact fields?_last after hname hvalue

theorem reads_nextField (name : Name) {value : Spelling .value} {fields : Spelling .fields}
    (h : value.Reads) (after before : Blanks) (hrest : fields.Reads) :
    (nextField name value after before fields).Reads := by
  intro fuel rest hfuel hclosed
  let tail := ',' :: (before.chars ++ (fields.chars ++ rest))
  have htext : (nextField name value after before fields).chars ++ rest =
      name.chars ++ (value.chars ++ (after.chars ++ tail)) := by simp [tail]
  simp only [chars, List.length_cons, List.length_append] at hfuel
  have hvalue : value? fuel (value.chars ++ (after.chars ++ tail)) =
      some (value.denoted, after.chars ++ tail) :=
    h.of_le (by omega) (after.closed_append (closed_cons (by decide) _))
  have hfields : fields? fuel (fields.chars ++ rest) = some (fields.denoted, rest) :=
    hrest.of_le (by omega) hclosed
  obtain ⟨c, cs, heq, hspace, -⟩ := value.chars_eq_cons
  obtain ⟨body, hbody, hname⟩ := name.readsName hspace (cs ++ (after.chars ++ tail))
  obtain ⟨ds, hquote⟩ := fields.fields_eq_cons
  rw [htext]
  rw [heq, List.cons_append] at hvalue ⊢
  rw [hbody]
  simp only [tail, hquote, List.cons_append] at hname hvalue hfields ⊢
  exact fields?_more after before hname hvalue hfields

theorem reads {i : Part} (t : Spelling i) : t.Reads := by
  induction t with
  | null => exact fun _ _ _ _ => rfl
  | bool b => cases b <;> exact fun _ _ _ _ => rfl
  | number n => exact reads_number n
  | str parts => exact reads_str parts
  | emptyArr inside => exact reads_emptyArr inside
  | arr before _ ih => exact reads_arr before ih
  | emptyObj inside => exact reads_emptyObj inside
  | obj before _ ih => exact reads_obj before ih
  | lastItem _ after ih => exact reads_lastItem ih after
  | nextItem _ after before _ ih ihRest => exact reads_nextItem ih after before ihRest
  | lastField name _ after ih => exact reads_lastField name ih after
  | nextField name _ after before _ ih ihRest => exact reads_nextField name ih after before ihRest

end Spelling

/-- The text of a value between blanks. -/
def Spelling.text (t : Spelling .value) (before after : Blanks) : String :=
  String.ofList (before.chars ++ (t.chars ++ after.chars))

/-- The value that the text denotes. -/
def Spelling.json (t : Spelling .value) : Json := t.denoted

/-- Every text of a value denotes this value. -/
theorem parse?_text (t : Spelling .value) (before after : Blanks) :
    parse? (t.text before after) = some t.json := by
  have hafter : Closed after.chars := by
    have hclosed : Closed (after.chars ++ []) := after.closed_append fun _ hc => nomatch hc
    rwa [List.append_nil] at hclosed
  obtain ⟨c, cs, heq, hspace, -⟩ := t.chars_eq_cons
  have hskip : skipSpace (before.chars ++ (t.chars ++ after.chars)) = t.chars ++ after.chars := by
    rw [heq]
    exact before.skipSpace_append hspace _
  have hread : value? (2 * (before.chars ++ (t.chars ++ after.chars)).length + 2)
      (t.chars ++ after.chars) = some (t.json, after.chars) := by
    have hfuel : 2 * t.chars.length ≤
        2 * (before.chars ++ (t.chars ++ after.chars)).length + 2 := by
      simp only [List.length_append]
      omega
    exact t.reads.of_le hfuel hafter
  unfold parse? Spelling.text
  rw [String.toList_ofList]
  dsimp only
  rw [hskip, hread]
  exact if_pos after.all_isSpace

end UiRecovery.Json
