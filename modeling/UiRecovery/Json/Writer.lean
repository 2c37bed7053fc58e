import UiRecovery.Json.Basic

/-!
# Writing JSON

The compact text of a value: no blanks, fields in order, and in strings only the quote, the
backslash and the control characters below U+0020 are escaped.
-/

namespace UiRecovery.Json

/-- How one character is written inside a string. -/
def escapedChar (c : Char) : List Char :=
  if c = '"' then ['\\', '"']
  else if c = '\\' then ['\\', '\\']
  else if c = '\x08' then ['\\', 'b']
  else if c = '\t' then ['\\', 't']
  else if c = '\n' then ['\\', 'n']
  else if c = '\x0c' then ['\\', 'f']
  else if c = '\r' then ['\\', 'r']
  else if c.toNat < 0x20 then
    ['\\', 'u', '0', '0', Nat.digitChar (c.toNat / 16), Nat.digitChar (c.toNat % 16)]
  else [c]

/-- A string that denotes no text is written as one unpaired surrogate. -/
def stringChars : Option String → List Char
  | some s => '"' :: s.toList.flatMap escapedChar ++ ['"']
  | none => ['"', '\\', 'u', 'd', '8', '0', '0', '"']

def intChars : Int → List Char
  | .ofNat n => Nat.toDigits 10 n
  | .negSucc n => '-' :: Nat.toDigits 10 (n + 1)

mutual

/-- The compact text of a value. -/
def chars : Json → List Char
  | .null => ['n', 'u', 'l', 'l']
  | .bool true => ['t', 'r', 'u', 'e']
  | .bool false => ['f', 'a', 'l', 's', 'e']
  | .int i => intChars i
  | .decimal m e => intChars m ++ 'e' :: intChars e
  | .str t => stringChars t
  | .arr [] => ['[', ']']
  | .arr (j :: js) => '[' :: chars j ++ itemChars js
  | .obj [] => ['\x7b', '\x7d']
  | .obj ((k, j) :: fs) => '\x7b' :: stringChars k ++ ':' :: chars j ++ fieldChars fs

/-- The items after the first, and the closing bracket. -/
def itemChars : List Json → List Char
  | [] => [']']
  | j :: js => ',' :: chars j ++ itemChars js

/-- The fields after the first, and the closing brace. -/
def fieldChars : List (Option String × Json) → List Char
  | [] => ['\x7d']
  | (k, j) :: fs => ',' :: stringChars k ++ ':' :: chars j ++ fieldChars fs

end

def render (j : Json) : String := String.ofList j.chars

end UiRecovery.Json
