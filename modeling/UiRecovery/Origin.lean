import UiRecovery.Json.Plain
import UiRecovery.Json.Record

/-!
# Origins

The component that a recovered fact belongs to: a screen, which may have a label, or a fragment.
-/

namespace UiRecovery

inductive Origin where
  | activity (value label : String)
  | fragment (value : String)
deriving DecidableEq, Repr, Inhabited

namespace Origin

/-- The type that owns the component. -/
def value : Origin → String
  | .activity value _ => value
  | .fragment value => value

/-- The label of a screen. An empty one counts as none. -/
def label? : Origin → Option String
  | .activity _ label => if label = "" then none else some label
  | .fragment _ => none

def isFragment : Origin → Bool
  | .activity _ _ => false
  | .fragment _ => true

def display (o : Origin) : String :=
  match o with
  | .fragment value => "fragment " ++ value
  | .activity value _ =>
    match o.label? with
    | some label => value ++ " (" ++ label ++ ")"
    | none => value

/-- Screens come before fragments, each by their fields. -/
instance : Ord Origin where
  compare
    | .activity v l, .activity v' l' => (compare v v').then (compare l l')
    | .activity _ _, .fragment _ => .lt
    | .fragment _, .activity _ _ => .gt
    | .fragment v, .fragment v' => compare v v'

/-- The field that says which kind of origin an object describes. -/
def tagName : String := "kind"

def toJson : Origin → Json
  | .activity value label =>
    .object [(tagName, .text "Activity"), ("value", .text value), ("label", .text label)]
  | .fragment value => .object [(tagName, .text "Fragment"), ("value", .text value)]

/-- The deepest nesting at which the fields of an origin are held until its kind is known. -/
def maxDepth : Nat := 127

/-- An origin from the fields that `record` gives for the names of its kind. -/
def ofFields? (kind : String) (record : List String → Option (List (Option Json))) :
    Option Origin := do
  if kind = "Activity" then
    match ← record ["value", "label"] with
    | [value, label] =>
      return .activity (← Json.required? Json.text? value) (← Json.required? Json.text? label)
    | _ => none
  else if kind = "Fragment" then
    match ← record ["value"] with
    | [value] => return .fragment (← Json.required? Json.text? value)
    | _ => none
  else none

def ofJson? (j : Json) : Option Origin :=
  if j.isPlain maxDepth then
    match j with
    | .obj fields => do
      let kind ← Json.required? Json.text? (← Json.once? (← Json.named? fields) tagName)
      ofFields? kind fun names => (Json.obj fields).record? names
    | .arr (kind :: items) => do
      ofFields? (← kind.text?) fun names => (Json.arr items).record? names
    | _ => none
  else none

end Origin

end UiRecovery
