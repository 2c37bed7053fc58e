/-!
# JSON values

What a JSON text denotes. Objects keep their fields in the order of the text and may repeat a name:
whether that is allowed is for the reader of a record to say. A number written without fraction and
exponent is an `int`, of any size; every other number is a `decimal` and keeps the leading digits
that fit in 64 bits.
-/

namespace UiRecovery

/-- A JSON value.

A string is `none` when its `\u` escapes leave a surrogate unpaired. Such a string is well formed
and may be skipped, but it denotes no text. -/
inductive Json where
  | null
  | bool (value : Bool)
  | int (value : Int)
  /-- About `significand * 10 ^ exponent`; also the token `-0`, which no integer reader accepts. -/
  | decimal (significand exponent : Int)
  | str (text : Option String)
  | arr (items : List Json)
  | obj (fields : List (Option String × Json))
deriving Inhabited

namespace Json

def text (s : String) : Json := .str (some s)

def nat (n : Nat) : Json := .int n

/-- An object with the given names, in the given order. -/
def object (fields : List (String × Json)) : Json := .obj (fields.map fun f => (some f.1, f.2))

/-- A missing value is written as `null`. -/
def optional {α : Type} (encode : α → Json) : Option α → Json
  | none => .null
  | some a => encode a

def list {α : Type} (encode : α → Json) (as : List α) : Json := .arr (as.map encode)

/-- A tagged payload: the object whose only field is named for the variant. -/
def variant (name : String) (payload : Json) : Json := .obj [(some name, payload)]

end Json

end UiRecovery
