import UiRecovery.Attr
import UiRecovery.Collection.OrderedMap
import UiRecovery.Collection.OrderedSet
import UiRecovery.Guid
import UiRecovery.InputType

/-!
# Widgets

A recovered widget: who it is, what kind of widget it is, and the evidence that was found for it.
Children are named by handles: the handle of a widget is its position in the scene that holds it.
Evidence only ever grows: a set keeps what it has, and the first value of an attribute is kept
against later ones.
-/

namespace UiRecovery

/-- How a fragment came into a screen. -/
inductive FragmentSource where
  | markup
  | transaction
deriving DecidableEq, Repr

namespace FragmentSource

def name : FragmentSource → String
  | .markup => "Xml"
  | .transaction => "Dynamic"

def ofJson? (j : Json) : Option FragmentSource :=
  [FragmentSource.markup, .transaction].find? fun s => j.unitVariant? = some s.name

end FragmentSource

inductive WidgetKind where
  /-- A leaf. -/
  | view
  | group (children : List Nat)
  /-- A text field, with the masks that say what it expects. -/
  | text (masks : OrderedSet Int32)
  /-- The place of a fragment. -/
  | fragment (children : List Nat) (source : FragmentSource) (tag : String)
deriving DecidableEq, Repr, Inhabited

namespace WidgetKind

def isContainer : WidgetKind → Bool
  | .group _ => true
  | .fragment _ _ _ => true
  | _ => false

def children : WidgetKind → List Nat
  | .group cs => cs
  | .fragment cs _ _ => cs
  | _ => []

/-- Change the children of a container. A leaf stays as it is. -/
def mapChildren (f : List Nat → List Nat) : WidgetKind → WidgetKind
  | .group cs => .group (f cs)
  | .fragment cs source tag => .fragment (f cs) source tag
  | k => k

def toJson : WidgetKind → Json
  | .view => .text "View"
  | .group cs => .variant "Group" (.object [("children", .list .nat cs)])
  | .text masks => .variant "Text" (.object [("input_type_values", .list .int32 masks.toList)])
  | .fragment cs source tag =>
    .variant "Fragment"
      (.object
        [("children", .list .nat cs), ("fragment_type", .text source.name), ("tag", .text tag)])

end WidgetKind

structure Widget where
  /-- The id that the developer gave, which another widget may have too. -/
  id : Int32
  guid : Guid
  className : String
  texts : OrderedSet Attr := ∅
  /-- The other attributes, by name. -/
  others : OrderedMap String Attr := ∅
  /-- The callback that the markup names. -/
  markupCallback : Option String := none
  listeners : OrderedSet String := ∅
  /-- The local that the widget was assigned to, empty if none is known. -/
  idVariable : String := ""
  kind : WidgetKind
deriving DecidableEq, Repr, Inhabited

namespace Widget

/-- The id of a widget that was given none. -/
def missingId : Int32 := -1

/-- What stands between the texts of a widget. -/
def textSeparator : String := "\x1e"

def isContainer (w : Widget) : Bool := w.kind.isContainer

def children (w : Widget) : List Nat := w.kind.children

/-- A blank widget is a leaf. -/
@[simp]
theorem children_default : (default : Widget).children = [] := rfl

@[simp]
theorem isContainer_default : (default : Widget).isContainer = false := rfl

def isText (w : Widget) : Bool :=
  match w.kind with
  | .text _ => true
  | _ => false

def masks? (w : Widget) : Option (OrderedSet Int32) :=
  match w.kind with
  | .text masks => some masks
  | _ => none

def fragmentSource? (w : Widget) : Option FragmentSource :=
  match w.kind with
  | .fragment _ source _ => some source
  | _ => none

def tag? (w : Widget) : Option String :=
  match w.kind with
  | .fragment _ _ tag => some tag
  | _ => none

/-- The values of the texts that are not blank, in order. -/
def text (w : Widget) : String :=
  textSeparator.intercalate ((w.texts.toList.filter fun a => !a.isBlank).map Attr.value)

/-- One label for each mask of a text field. -/
def inputTypes (w : Widget) : List String :=
  match w.masks? with
  | some masks => masks.toList.map InputType.labelOfMask
  | none => []

/-! ## Evidence -/

def addText (w : Widget) (a : Attr) : Widget := { w with texts := w.texts.insert a }

/-- As `addText`, and whether the text was not yet known. -/
def addTextNew (w : Widget) (a : Attr) : Bool × Widget := (a ∉ w.texts, w.addText a)

/-- The first attribute under a name is kept. -/
def addOther (w : Widget) (name : String) (a : Attr) : Widget :=
  if w.others.contains name then w else { w with others := w.others.insert name a }

/-- As `addOther`, and whether there was no attribute under the name. -/
def addOtherNew (w : Widget) (name : String) (a : Attr) : Bool × Widget :=
  (!w.others.contains name, w.addOther name a)

def addListener (w : Widget) (listener : String) : Widget :=
  { w with listeners := w.listeners.insert listener }

/-- As `addListener`, and whether the listener was not yet known. -/
def addListenerNew (w : Widget) (listener : String) : Bool × Widget :=
  (listener ∉ w.listeners, w.addListener listener)

/-- Only text fields take masks. -/
def addMask (w : Widget) (mask : Int32) : Widget :=
  match w.kind with
  | .text masks => { w with kind := .text (masks.insert mask) }
  | _ => w

/-- As `addMask`, and whether the widget takes masks and did not have this one. -/
def addMaskNew (w : Widget) (mask : Int32) : Bool × Widget :=
  (w.masks?.any fun masks => mask ∉ masks, w.addMask mask)

/-- Name the widget after a local, unless it has such a name. -/
def nameAfter (w : Widget) (localName : String) : Widget :=
  if w.idVariable = "" then { w with idVariable := localName } else w

/-- What the names of image attributes start with. -/
def imageStem : String := "image"

def isImageName (name : String) : Bool := imageStem.toList.isPrefixOf name.toList

def imageCount (w : Widget) : Nat := (w.others.keys.filter isImageName).length

def hasImage (w : Widget) (value : String) : Bool :=
  w.others.values.any fun a => isImageName a.name ∧ a.value = value

/-- Record an image under the next number, unless it is known. -/
def addImage (w : Widget) (value : String) : Widget :=
  if w.hasImage value then w
  else
    let name := imageStem ++ toString w.imageCount
    w.addOther name (Attr.dynamic name value)

/-! ## Structure -/

def mapChildren (w : Widget) (f : List Nat → List Nat) : Widget :=
  { w with kind := w.kind.mapChildren f }

def appendChildren (w : Widget) (cs : List Nat) : Widget := w.mapChildren (· ++ cs)

/-- The same widget under another identity, without children. -/
def duplicate (w : Widget) (id : Int32) (guid : Guid) : Widget :=
  { w.mapChildren fun _ => [] with id, guid }

/-! ## Text -/

def toJson (w : Widget) : Json :=
  .object
    [("id", .int32 w.id), ("guid", w.guid.toJson), ("view_class", .text w.className),
      ("text_attributes", .list Attr.toJson w.texts.toList),
      ("other_attributes", .object (w.others.entries.map fun e => (e.1, e.2.toJson))),
      ("xml_callback", .optional .text w.markupCallback),
      ("listeners", .list .text w.listeners.toList),
      ("id_variable", .text w.idVariable), ("kind", w.kind.toJson)]

end Widget

end UiRecovery
