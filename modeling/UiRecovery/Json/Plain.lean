import UiRecovery.Json.Basic
import UiRecovery.Json.Decimal

/-!
# Plain values

A record whose shape depends on one of its fields has to be held before that field has been seen.
Only plain values are held: their strings are texts, their numbers are finite doubles, and they are
nested to a bounded depth.
-/

namespace UiRecovery.Json

/-- Whether an integer, if need be as a double, is in range. -/
def intIsFinite (i : Int) : Bool :=
  let (n, power) := leadingDigits (Nat.toDigits 10 i.natAbs) []
  isFinite n power

mutual

/-- Plain, with containers nested at most `depth` deep. -/
def isPlain (depth : Nat) : Json → Bool
  | .null => true
  | .bool _ => true
  | .int i => intIsFinite i
  | .decimal n e => isFinite n.natAbs e
  | .str t => t.isSome
  | .arr items => 0 < depth && allPlain (depth - 1) items
  | .obj fields => 0 < depth && allFieldsPlain (depth - 1) fields

def allPlain (depth : Nat) : List Json → Bool
  | [] => true
  | j :: js => isPlain depth j && allPlain depth js

def allFieldsPlain (depth : Nat) : List (Option String × Json) → Bool
  | [] => true
  | (name, j) :: fs => name.isSome && isPlain depth j && allFieldsPlain depth fs

end

end UiRecovery.Json
