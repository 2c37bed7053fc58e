import UiRecovery.Json.Basic
import UiRecovery.Json.Decimal

/-!
# Reading JSON

The strict grammar: no comments, no trailing commas, no leading zeros, no raw control characters in
strings, and blanks only between tokens. Escapes are checked one by one; whether surrogates pair up
is decided afterwards, because a string that is skipped need not denote a text.

Reading is by recursion on a fuel that `parse` takes from the length of the text: every second call
consumes a character, so the fuel never decides an answer.
-/

namespace UiRecovery.Json

def isSpace (c : Char) : Bool := c = ' ' || c = '\n' || c = '\t' || c = '\r'

def skipSpace (cs : List Char) : List Char := cs.dropWhile isSpace

/-! ## Strings -/

/-- A part of a string: a character, or the code unit of a `\u` escape. -/
inductive Piece where
  | char (c : Char)
  | unit (code : Nat)

def hexValue? (c : Char) : Option Nat :=
  if '0' ≤ c ∧ c ≤ '9' then some (c.toNat - '0'.toNat)
  else if 'a' ≤ c ∧ c ≤ 'f' then some (c.toNat - 'a'.toNat + 10)
  else if 'A' ≤ c ∧ c ≤ 'F' then some (c.toNat - 'A'.toNat + 10)
  else none

def codeUnit? (a b c d : Char) : Option Nat := do
  let a ← hexValue? a
  let b ← hexValue? b
  let c ← hexValue? c
  let d ← hexValue? d
  return ((a * 16 + b) * 16 + c) * 16 + d

/-- The character that a backslash and `c` stand for. -/
def unescape? (c : Char) : Option Char :=
  if c = '"' ∨ c = '\\' ∨ c = '/' then some c
  else if c = 'b' then some '\x08'
  else if c = 'f' then some '\x0c'
  else if c = 'n' then some '\n'
  else if c = 'r' then some '\r'
  else if c = 't' then some '\t'
  else none

/-- The pieces of a string up to its closing quote, and the text after it. -/
def pieces? : List Char → Option (List Piece × List Char)
  | [] => none
  | c :: cs =>
    if c = '"' then some ([], cs)
    else if c = '\\' then
      match cs with
      | 'u' :: h₁ :: h₂ :: h₃ :: h₄ :: rest => do
        let code ← codeUnit? h₁ h₂ h₃ h₄
        let (ps, rest) ← pieces? rest
        return (.unit code :: ps, rest)
      | e :: rest => do
        let c ← unescape? e
        let (ps, rest) ← pieces? rest
        return (.char c :: ps, rest)
      | [] => none
    else if c.toNat < 0x20 then none
    else do
      let (ps, rest) ← pieces? cs
      return (.char c :: ps, rest)

def isHighSurrogate (n : Nat) : Bool := 0xd800 ≤ n && n < 0xdc00

def isLowSurrogate (n : Nat) : Bool := 0xdc00 ≤ n && n < 0xe000

/-- The characters that pieces denote, if every surrogate is one half of a pair. -/
def joinPieces? : List Piece → Option (List Char)
  | [] => some []
  | .char c :: ps => (joinPieces? ps).map (c :: ·)
  | .unit n :: ps =>
    if isHighSurrogate n then
      match ps with
      | .unit m :: ps =>
        if isLowSurrogate m then
          (joinPieces? ps).map (Char.ofNat (0x10000 + (n - 0xd800) * 0x400 + (m - 0xdc00)) :: ·)
        else none
      | _ => none
    else if isLowSurrogate n then none
    else (joinPieces? ps).map (Char.ofNat n :: ·)

/-- A string after its opening quote. -/
def stringBody? (cs : List Char) : Option (Option String × List Char) :=
  (pieces? cs).map fun (ps, rest) => ((joinPieces? ps).map String.ofList, rest)

/-! ## Numbers -/

/-- One or more digits, and the text after them. -/
def digits? (cs : List Char) : Option (List Char × List Char) :=
  let ds := cs.takeWhile Char.isDigit
  if ds.isEmpty then none else some (ds, cs.dropWhile Char.isDigit)

def signed (negative : Bool) (n : Nat) : Int := if negative then -(n : Int) else n

/-- The digits after a decimal point, none if there is no point. -/
def fraction? : List Char → Option (List Char × List Char)
  | '.' :: cs => digits? cs
  | cs => some ([], cs)

/-- The value of an exponent part, `none` if there is none. -/
def exponent? : List Char → Option (Option Int × List Char)
  | c :: cs =>
    if c = 'e' ∨ c = 'E' then
      let (negative, cs) := match cs with
        | '-' :: cs => (true, cs)
        | '+' :: cs => (false, cs)
        | cs => (false, cs)
      (digits? cs).map fun (ds, rest) => (some (signed negative (Nat.ofDigitChars 10 ds 0)), rest)
    else some (none, c :: cs)
  | [] => some (none, [])

def unsigned? (negative : Bool) (cs : List Char) : Option (Json × List Char) := do
  let (whole, cs) ← digits? cs
  if whole.head? = some '0' ∧ 1 < whole.length then none
  else
    let (places, cs) ← fraction? cs
    let (exponent, cs) ← exponent? cs
    match places, exponent with
    | [], none =>
      let n := Nat.ofDigitChars 10 whole 0
      if negative ∧ n = 0 then return (.decimal 0 0, cs) else return (.int (signed negative n), cs)
    | _, _ =>
      let (n, power) := leadingDigits whole places
      return (.decimal (signed negative n) (power + exponent.getD 0), cs)

def number? : List Char → Option (Json × List Char)
  | '-' :: cs => unsigned? true cs
  | cs => unsigned? false cs

/-! ## Values -/

/-- The text after `word`, if the text starts with it. -/
def dropWord? : List Char → List Char → Option (List Char)
  | [], cs => some cs
  | w :: ws, c :: cs => if c = w then dropWord? ws cs else none
  | _ :: _, [] => none

mutual

/-- A value at the head of the text, and the text after it. -/
def value? : Nat → List Char → Option (Json × List Char)
  | 0, _ => none
  | _ + 1, [] => none
  | fuel + 1, c :: cs =>
    if c = '"' then (stringBody? cs).map fun (t, rest) => (.str t, rest)
    else if c = '[' then
      match skipSpace cs with
      | ']' :: rest => some (.arr [], rest)
      | cs => (items? fuel cs).map fun (js, rest) => (.arr js, rest)
    else if c = '\x7b' then
      match skipSpace cs with
      | '\x7d' :: rest => some (.obj [], rest)
      | cs => (fields? fuel cs).map fun (fs, rest) => (.obj fs, rest)
    else if c = 'n' then (dropWord? ['u', 'l', 'l'] cs).map fun rest => (.null, rest)
    else if c = 't' then (dropWord? ['r', 'u', 'e'] cs).map fun rest => (.bool true, rest)
    else if c = 'f' then (dropWord? ['a', 'l', 's', 'e'] cs).map fun rest => (.bool false, rest)
    else number? (c :: cs)

/-- One or more items and the closing bracket. -/
def items? : Nat → List Char → Option (List Json × List Char)
  | 0, _ => none
  | fuel + 1, cs => do
    let (j, cs) ← value? fuel cs
    match skipSpace cs with
    | ',' :: cs =>
      let (js, rest) ← items? fuel (skipSpace cs)
      return (j :: js, rest)
    | ']' :: rest => return ([j], rest)
    | _ => none

/-- One or more fields and the closing brace. -/
def fields? : Nat → List Char → Option (List (Option String × Json) × List Char)
  | 0, _ => none
  | fuel + 1, cs => do
    match cs with
    | '"' :: cs =>
      let (key, cs) ← stringBody? cs
      match skipSpace cs with
      | ':' :: cs =>
        let (j, cs) ← value? fuel (skipSpace cs)
        match skipSpace cs with
        | ',' :: cs =>
          let (fs, rest) ← fields? fuel (skipSpace cs)
          return ((key, j) :: fs, rest)
        | '\x7d' :: rest => return ([(key, j)], rest)
        | _ => none
      | _ => none
    | _ => none

end

/-- The value of a whole text. Only blanks may follow it. -/
def parse? (s : String) : Option Json :=
  let cs := s.toList
  match value? (2 * cs.length + 2) (skipSpace cs) with
  | some (j, rest) => if rest.all isSpace then some j else none
  | none => none

end UiRecovery.Json
