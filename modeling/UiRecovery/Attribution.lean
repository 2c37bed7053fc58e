import UiRecovery.Collection.OrderedMap
import UiRecovery.Collection.OrderedSet
import UiRecovery.Guid
import UiRecovery.Origin

/-!
# Attribution

Which components a recovered element or a called method belongs to. The same code may run for
several components, so a fact can have several origins. Elements and methods are listed in the order
in which they were first attributed to any origin, origins in the order in which they were
attributed to the fact.
-/

namespace UiRecovery

structure Attribution where
  elements : OrderedMap Guid (OrderedSet Origin) := ∅
  calls : OrderedMap String (OrderedSet Origin) := ∅
deriving DecidableEq, Repr, Inhabited

/-- Add an origin to those of a key. -/
def OrderedMap.tag {κ : Type} [DecidableEq κ] (m : OrderedMap κ (OrderedSet Origin)) (key : κ)
    (o : Origin) : OrderedMap κ (OrderedSet Origin) :=
  m.update key fun origins => (origins.getD ∅).insert o

/-- The origins of a key. -/
def OrderedMap.tagsOf {κ : Type} [DecidableEq κ] (m : OrderedMap κ (OrderedSet Origin)) (key : κ) :
    List Origin :=
  match m.get? key with
  | some origins => origins.toList
  | none => []

/-- The keys that have an origin. -/
def OrderedMap.taggedWith {κ : Type} (m : OrderedMap κ (OrderedSet Origin)) (o : Origin) : List κ :=
  (m.entries.filter fun e => o ∈ e.2).map Prod.fst

namespace Attribution

def tagElement (a : Attribution) (guid : Guid) (o : Origin) : Attribution :=
  { a with elements := a.elements.tag guid o }

def tagCall (a : Attribution) (signature : String) (o : Origin) : Attribution :=
  { a with calls := a.calls.tag signature o }

def originsOf (a : Attribution) (guid : Guid) : List Origin := a.elements.tagsOf guid

def originsOfCall (a : Attribution) (signature : String) : List Origin := a.calls.tagsOf signature

def elementsOf (a : Attribution) (o : Origin) : List Guid := a.elements.taggedWith o

def callsOf (a : Attribution) (o : Origin) : List String := a.calls.taggedWith o

/-- As `tagElement`, and whether the element was not yet attributed to the origin. -/
def tagElementNew (a : Attribution) (guid : Guid) (o : Origin) : Bool × Attribution :=
  (!(a.originsOf guid).contains o, a.tagElement guid o)

/-- As `tagCall`, and whether the call was not yet attributed to the origin. -/
def tagCallNew (a : Attribution) (signature : String) (o : Origin) : Bool × Attribution :=
  (!(a.originsOfCall signature).contains o, a.tagCall signature o)

/-- Every origin of an element, then every further origin of a call. -/
def origins (a : Attribution) : List Origin :=
  (OrderedSet.ofList ((a.elements.values ++ a.calls.values).flatMap OrderedSet.toList)).toList

def toJson (a : Attribution) : Json :=
  let origins (s : OrderedSet Origin) : Json := .list Origin.toJson s.toList
  .object
    [("elements", .object (a.elements.entries.map fun e => (toString e.1.value, origins e.2))),
      ("apis", .object (a.calls.entries.map fun e => (e.1, origins e.2)))]

end Attribution

end UiRecovery
