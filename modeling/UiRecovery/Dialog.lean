import UiRecovery.Collection.OrderedSet
import UiRecovery.Guid

/-!
# Dialogs

A message box, described by the candidates for its texts: several values may reach the call that
sets one.
-/

namespace UiRecovery

inductive ButtonRole where
  | positive
  | negative
  | neutral
deriving DecidableEq, Repr

namespace ButtonRole

def all : List ButtonRole := [.positive, .negative, .neutral]

def name : ButtonRole → String
  | .positive => "Positive"
  | .negative => "Negative"
  | .neutral => "Neutral"

/-- The method of a builder that adds a button of this role. -/
def methodName (r : ButtonRole) : String := "set" ++ r.name ++ "Button"

def ofMethodName? (method : String) : Option ButtonRole := all.find? fun r => r.methodName = method

def ofJson? (j : Json) : Option ButtonRole := all.find? fun r => j.unitVariant? = some r.name

end ButtonRole

structure Button where
  guid : Guid
  /-- Candidates for the label. -/
  labels : OrderedSet String
  role : ButtonRole
  listeners : OrderedSet String
deriving DecidableEq, Repr

namespace Button

/-- Buttons have no ids of their own, and all report this one. -/
def id : Int32 := 0

def withGuid (b : Button) (guid : Guid) : Button := { b with guid }

def toJson (b : Button) : Json :=
  .object
    [("guid", b.guid.toJson), ("label", .list .text b.labels.toList),
      ("button_type", .text b.role.name), ("listeners", .list .text b.listeners.toList)]

end Button

structure Dialog where
  titles : OrderedSet String := ∅
  messages : OrderedSet String := ∅
  icons : OrderedSet String := ∅
  buttons : List Button := []
deriving DecidableEq, Repr, Inhabited

namespace Dialog

def buttonsOf (d : Dialog) (role : ButtonRole) : List Button :=
  d.buttons.filter fun b => b.role = role

def toJson (d : Dialog) : Json :=
  .object
    [("title", .list .text d.titles.toList), ("message", .list .text d.messages.toList),
      ("icon", .list .text d.icons.toList), ("buttons", .list Button.toJson d.buttons)]

end Dialog

end UiRecovery
