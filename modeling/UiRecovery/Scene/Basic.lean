import UiRecovery.Error
import UiRecovery.Widget

/-!
# Scenes

A scene holds every widget of one recovery in a list that only grows, and the mint that names them.
A handle is a position in that list, so handles stay valid. Children are attached by handle: the
child relation may share widgets and may run in circles, but no widget is attached to itself.
-/

namespace UiRecovery

structure Scene where
  widgets : List Widget := []
  mint : Mint := {}
deriving DecidableEq, Repr, Inhabited

/-- A way to come by the widget at a position of a list. -/
abbrev Look (m : Type → Type) : Type := List Widget → Nat → m Widget

/-- Where the list has no widget there is a blank one. -/
def Look.blank {m : Type → Type} [Monad m] : Look m := fun ws h => return ws[h]?.getD default

namespace Scene

def size (s : Scene) : Nat := s.widgets.length

def get? (s : Scene) (h : Nat) : Option Widget := s.widgets[h]?

/-- The widget behind a handle. A handle that was never issued has a blank one. -/
def widget (s : Scene) (h : Nat) : Widget := (s.get? h).getD default

def children (s : Scene) (h : Nat) : List Nat := (s.widget h).children

def isContainer (s : Scene) (h : Nat) : Bool := (s.widget h).isContainer

/-- Every child of some widget. -/
def attached (s : Scene) : List Nat := s.widgets.flatMap Widget.children

def findGuid? (s : Scene) (guid : Guid) : Option Nat := s.widgets.findIdx? fun w => w.guid = guid

/-! ## Growth -/

/-- Add a widget without evidence. -/
def create (s : Scene) (id : Int32) (className : String) (kind : WidgetKind) : Nat × Scene :=
  (s.size,
    { widgets := s.widgets ++ [{ id, guid := s.mint.next, className, kind }]
      mint := s.mint.advance 1 })

def modify (s : Scene) (h : Nat) (f : Widget → Widget) : Scene :=
  { s with widgets := s.widgets.modify h f }

/-- Attach children to a container, and say whether any were attached. A leaf takes none. A batch
that has the container itself in it is refused. -/
def addChildren (s : Scene) (parent : Nat) (children : List Nat) : Except Error Bool × Scene :=
  match s.get? parent with
  | none => (.ok false, s)
  | some w =>
    if !w.isContainer then (.ok false, s)
    else if children.contains parent then (.error (.selfCycle w.guid w.id), s)
    else (.ok (!children.isEmpty), s.modify parent (·.appendChildren children))

/-- Attach one child to a container, and say whether it was attached. -/
def addChild (s : Scene) (parent child : Nat) : Except Error Bool × Scene :=
  match s.get? parent with
  | none => (.ok false, s)
  | some w =>
    if !w.isContainer then (.ok false, s)
    else if parent = child then (.error (.selfCycle w.guid w.id), s)
    else (.ok true, s.modify parent (·.appendChildren [child]))

/-- The guids of the scene's mint belong to others too: menu items and dialog buttons. -/
def advanceMint (s : Scene) (n : Nat) : Scene := { s with mint := s.mint.advance n }

/-! ## What the operations do -/

theorem get?_eq_none_iff {s : Scene} {h : Nat} : s.get? h = none ↔ s.size ≤ h :=
  List.getElem?_eq_none_iff

/-- A handle that has a widget is no new one. -/
theorem lt_size_of_get? {s : Scene} {h : Nat} {e : Widget} (he : s.get? h = some e) :
    h < s.size := by
  refine Nat.lt_of_not_le fun hle => ?_
  rw [get?_eq_none_iff.mpr hle] at he
  cases he

theorem widget_of_get? {s : Scene} {h : Nat} {e : Widget} (he : s.get? h = some e) :
    s.widget h = e := by
  rw [widget, he, Option.getD_some]

theorem children_of_get? {s : Scene} {h : Nat} {e : Widget} (he : s.get? h = some e) :
    s.children h = e.children := by
  rw [children, widget_of_get? he]

theorem isContainer_of_get? {s : Scene} {h : Nat} {e : Widget} (he : s.get? h = some e) :
    s.isContainer h = e.isContainer := by
  rw [isContainer, widget_of_get? he]

/-- What two scenes have behind a handle decides what is read there. -/
theorem children_congr {s s' : Scene} {h h' : Nat} (hget : s.get? h = s'.get? h') :
    s.children h = s'.children h' := by
  rw [children, children, widget, widget, hget]

theorem children_of_get?_eq_none {s : Scene} {h : Nat} (hget : s.get? h = none) :
    s.children h = [] := by
  rw [children, widget, hget]
  rfl

theorem exists_of_isContainer {s : Scene} {h : Nat} (hcontainer : s.isContainer h = true) :
    ∃ e, s.get? h = some e ∧ e.isContainer = true := by
  unfold isContainer widget at hcontainer
  cases hget : s.get? h with
  | none => simp [hget] at hcontainer
  | some e => exact ⟨e, rfl, by simpa [hget] using hcontainer⟩

@[simp]
theorem fst_create (s : Scene) (id : Int32) (className : String) (kind : WidgetKind) :
    (s.create id className kind).1 = s.size := rfl

@[simp]
theorem size_create (s : Scene) (id : Int32) (className : String) (kind : WidgetKind) :
    (s.create id className kind).2.size = s.size + 1 := by
  simp [create, size]

/-- A new widget takes the first free handle, and all others stay as they are. -/
theorem get?_create (s : Scene) (id : Int32) (className : String) (kind : WidgetKind) (h : Nat) :
    (s.create id className kind).2.get? h =
      if h = s.size then some { id, guid := s.mint.next, className, kind } else s.get? h := by
  unfold create get?
  by_cases hlt : h < s.size
  · rw [if_neg (Nat.ne_of_lt hlt)]
    exact List.getElem?_append_left hlt
  · rw [List.getElem?_append_right (Nat.le_of_not_lt hlt)]
    by_cases heq : h = s.size
    · rw [if_pos heq, heq]
      simp [size]
    · have hpos : s.size < h := by omega
      rw [if_neg heq, List.getElem?_eq_none (Nat.le_of_lt hpos), List.getElem?_eq_none]
      simp only [List.length_singleton, size] at hpos ⊢
      omega

@[simp]
theorem size_modify (s : Scene) (h : Nat) (f : Widget → Widget) : (s.modify h f).size = s.size := by
  simp [modify, size]

theorem get?_modify (s : Scene) (h x : Nat) (f : Widget → Widget) :
    (s.modify h f).get? x = if h = x then (s.get? x).map f else s.get? x := by
  simp only [modify, get?, List.getElem?_modify]
  by_cases e : h = x <;> simp [e]

@[simp]
theorem mint_modify (s : Scene) (h : Nat) (f : Widget → Widget) : (s.modify h f).mint = s.mint :=
  rfl

theorem addChild_of_leaf {s : Scene} {parent : Nat} (hleaf : s.isContainer parent = false)
    (child : Nat) :
    s.addChild parent child = (.ok false, s) := by
  unfold addChild
  cases hget : s.get? parent with
  | none => rfl
  | some e =>
      rw [isContainer_of_get? hget] at hleaf
      simp [hleaf]

theorem addChildren_of_leaf {s : Scene} {parent : Nat} (hleaf : s.isContainer parent = false)
    (children : List Nat) :
    s.addChildren parent children = (.ok false, s) := by
  unfold addChildren
  cases hget : s.get? parent with
  | none => rfl
  | some e =>
      rw [isContainer_of_get? hget] at hleaf
      simp [hleaf]

theorem addChild_of_container {s : Scene} {parent : Nat} {e : Widget}
    (hget : s.get? parent = some e) (he : e.isContainer = true) (child : Nat) :
    s.addChild parent child =
      if parent = child then (.error (.selfCycle e.guid e.id), s)
      else (.ok true, s.modify parent (·.appendChildren [child])) := by
  unfold addChild
  simp [hget, he]

theorem addChildren_of_container {s : Scene} {parent : Nat} {e : Widget}
    (hget : s.get? parent = some e) (he : e.isContainer = true) (children : List Nat) :
    s.addChildren parent children =
      if parent ∈ children then (.error (.selfCycle e.guid e.id), s)
      else (.ok (!children.isEmpty), s.modify parent (·.appendChildren children)) := by
  unfold addChildren
  simp [hget, he]

end Scene

end UiRecovery
