import UiRecovery.Json.Record
import UiRecovery.Text.Blank

/-!
# Attributes

One piece of evidence about an element: the name of an attribute, its value, and the resource or
variable from which the value was read.
-/

namespace UiRecovery

structure Attr where
  name : String
  value : String
  variableName : String
deriving DecidableEq, Repr, Inhabited

namespace Attr

/-- An attribute that code sets while it runs. -/
def dynamic (name value : String) : Attr := ⟨name, value, "dynamic"⟩

def isBlank (a : Attr) : Bool := Text.allBlank a.value

/-- By name, then value, then variable. -/
instance : Ord Attr where
  compare a b :=
    (compare a.name b.name).then
      ((compare a.value b.value).then (compare a.variableName b.variableName))

def toJson (a : Attr) : Json :=
  .object [("name", .text a.name), ("value", .text a.value), ("variable", .text a.variableName)]

def ofJson? (j : Json) : Option Attr := do
  match ← j.record? ["name", "value", "variable"] with
  | [name, value, variableName] =>
    return ⟨← Json.required? Json.text? name, ← Json.required? Json.text? value,
      ← Json.required? Json.text? variableName⟩
  | _ => none

end Attr

end UiRecovery
