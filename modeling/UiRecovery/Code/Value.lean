import UiRecovery.Collection.OrderedSet
import UiRecovery.Json.Record

/-!
# Values

What is known about the values that code computes. An oracle answers with the set of values that an
argument, a receiver or a result may have at a site, or says that it does not know.
-/

namespace UiRecovery

inductive Value where
  | int (value : Int64)
  | str (value : String)
deriving DecidableEq, Repr

namespace Value

def int? : Value → Option Int64
  | .int i => some i
  | .str _ => none

def str? : Value → Option String
  | .int _ => none
  | .str s => some s

/-- The value as a text, an integer in decimal. -/
def label : Value → String
  | .int i => toString i.toInt
  | .str s => s

def toJson : Value → Json
  | .int i => .variant "Int" (.int64 i)
  | .str s => .variant "Str" (.text s)

def ofJson? (j : Json) : Option Value :=
  match j.variant? with
  | some ("Int", some payload) => payload.int64?.map .int
  | some ("Str", some payload) => payload.text?.map .str
  | _ => none

end Value

/-- A value of an instruction. -/
inductive ValueRef where
  | arg (position : Nat)
  | receiver
  | result
deriving DecidableEq, Repr

def ValueRef.display : ValueRef → String
  | .arg n => "Arg(" ++ toString n ++ ")"
  | .receiver => "Receiver"
  | .result => "Result"

/-- The answer of an oracle. -/
inductive Resolution where
  | known (values : OrderedSet Value)
  | unknown
deriving DecidableEq, Repr

namespace Resolution

def values : Resolution → List Value
  | .known vs => vs.toList
  | .unknown => []

def isUnknown : Resolution → Bool
  | .known _ => false
  | .unknown => true

def ints (r : Resolution) : List Int64 := r.values.filterMap Value.int?

def strings (r : Resolution) : List String := r.values.filterMap Value.str?

def labels (r : Resolution) : List String := r.values.map Value.label

end Resolution

/-- Tells what is known about a value at a site. -/
abbrev Oracle (σ : Type) := ValueRef → σ → Resolution

/-- The integer as a word of 32 bits, if it is one. -/
def word32? (i : Int64) : Option Int32 :=
  if Int32.minValue.toInt ≤ i.toInt ∧ i.toInt ≤ Int32.maxValue.toInt then
    some (Int32.ofInt i.toInt)
  else none

/-- The word is the same number. -/
theorem toInt_of_word32? {i : Int64} {id : Int32} (hid : word32? i = some id) :
    id.toInt = i.toInt := by
  unfold word32? at hid
  split at hid
  · rename_i hrange
    obtain rfl := Option.some.inj hid
    have hmax : Int32.maxValue.toInt = 2147483647 := by decide
    exact Int32.toInt_ofInt_of_le hrange.1 (by omega)
  · cases hid

end UiRecovery
