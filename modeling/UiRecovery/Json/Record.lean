import UiRecovery.Json.Basic

/-!
# Records in JSON

How values of the library's types are read from JSON. A record is an object with named fields or an
array of its fields in order. In an object unknown names are skipped, and a known name may stand
only once. A variant is its name alone or an object with that one name.
-/

namespace UiRecovery.Json

/-! ## Leaves -/

def text? : Json → Option String
  | .str t => t
  | _ => none

def bool? : Json → Option Bool
  | .bool b => some b
  | _ => none

/-- An integer within inclusive bounds. -/
def intWithin? (low high : Int) : Json → Option Int
  | .int i => if low ≤ i ∧ i ≤ high then some i else none
  | _ => none

def int32? (j : Json) : Option Int32 :=
  (intWithin? Int32.minValue.toInt Int32.maxValue.toInt j).map Int32.ofInt

def int64? (j : Json) : Option Int64 :=
  (intWithin? Int64.minValue.toInt Int64.maxValue.toInt j).map Int64.ofInt

/-- An unsigned number of 64 bits. -/
def nat64? (j : Json) : Option Nat := (intWithin? 0 (UInt64.size - 1) j).map Int.toNat

def int32 (i : Int32) : Json := .int i.toInt

def int64 (i : Int64) : Json := .int i.toInt

def list? {α : Type} (decode : Json → Option α) : Json → Option (List α)
  | .arr items => items.mapM decode
  | _ => none

def optional? {α : Type} (decode : Json → Option α) : Json → Option (Option α)
  | .null => some none
  | j => (decode j).map some

/-! ## Records -/

/-- The fields with their names, if every name is a text. -/
def named? (fields : List (Option String × Json)) : Option (List (String × Json)) :=
  fields.mapM fun f => f.1.map fun name => (name, f.2)

/-- What an object gives for a name: nothing, or one value. A repeated name is refused. -/
def once? (fields : List (String × Json)) (name : String) : Option (Option Json) :=
  match fields.filter fun f => f.1 = name with
  | [] => some none
  | [f] => some (some f.2)
  | _ => none

/-- The values given for `names`, in their order. -/
def record? (names : List String) : Json → Option (List (Option Json))
  | .arr items => if items.length = names.length then some (items.map some) else none
  | .obj fields => do
    let fields ← named? fields
    names.mapM (once? fields)
  | _ => none

/-- As `record?`, for a record whose fields have defaults: an array may leave out the
last of them. -/
def partialRecord? (names : List String) : Json → Option (List (Option Json))
  | .arr items =>
    if items.length ≤ names.length then
      some (items.map some ++ List.replicate (names.length - items.length) none)
    else none
  | j => record? names j

/-- A field that must be given. -/
def required? {α : Type} (decode : Json → Option α) (field : Option Json) : Option α :=
  field.bind decode

/-- A field that may be missing, which is the same as `null`. -/
def absentOr? {α : Type} (decode : Json → Option α) : Option Json → Option (Option α)
  | none => some none
  | some j => optional? decode j

/-- A field that takes a default when it is missing. -/
def defaultOr? {α : Type} (decode : Json → Option α) (default : α) : Option Json → Option α
  | none => some default
  | some j => decode j

/-! ## Variants -/

/-- The name of a variant and its payload, if it has one. -/
def variant? : Json → Option (String × Option Json)
  | .str (some name) => some (name, none)
  | .obj [(some name, payload)] => some (name, some payload)
  | _ => none

/-- The name of a variant without payload, for which `null` may stand. -/
def unitVariant? (j : Json) : Option String :=
  match variant? j with
  | some (name, none) => some name
  | some (name, some .null) => some name
  | _ => none

end UiRecovery.Json
