import UiRecovery.Scene.Walk

/-!
# Deep copies

A copy of a widget is a copy of all that can be reached from it, with the same shape: what was
shared is shared, and circles close. A widget is copied when it is first met, without its children,
onto the next free handle and with the next guid. When its turn has come the copies of its children
are attached to its own copy one by one, and children that were not met before are copied then.

Only what was in the scene at the start is copied, though the copies go into the same scene. A
widget has its turn at most once, so a copy is made within the bound of a walk.
-/

namespace UiRecovery

/-- A copy in progress. -/
structure Copying where
  /-- The scene, with all copies that were made. -/
  scene : Scene
  /-- The handles of the copies, by original. -/
  copied : OrderedMap Nat Nat
  /-- The originals whose children are yet to be copied, the latest first. -/
  pending : List Nat

/-- Add a copy of a widget that holds nothing. -/
def Scene.duplicate (s : Scene) (e : Widget) (id : Int32) : Nat × Scene :=
  let (guid, mint) := s.mint.draw
  (s.size, { widgets := s.widgets ++ [e.duplicate id guid], mint })

namespace Copying

def attach (c : Copying) (target copy : Nat) : Copying :=
  { c with scene := c.scene.modify target (·.appendChildren [copy]) }

variable {m : Type → Type} [Monad m] (look : Look m) (originals : Nat)

/-- Attach the copy of a child, which is made now if it was not made before. -/
def addChild (target : Nat) (c : Copying) (child : Nat) : m Copying :=
  match c.copied.get? child with
  | some copy => return c.attach target copy
  | none => do
    let e ← look (c.scene.widgets.take originals) child
    let (copy, scene) := c.scene.duplicate e e.id
    let c : Copying :=
      { scene, copied := c.copied.insert child copy, pending := child :: c.pending }
    return c.attach target copy

/-- Attach the copies of all children of an original. -/
def expand (c : Copying) (source : Nat) : m Copying :=
  match c.copied.get? source with
  | none => return c
  | some target => do
    let e ← look (c.scene.widgets.take originals) source
    e.children.foldlM (addChild look originals target) c

/-- Expand what is pending, for a number of steps at most. -/
def run : Nat → Copying → m Copying
  | 0, c => return c
  | steps + 1, c =>
    match c.pending with
    | [] => return c
    | source :: pending => do
      run steps (← expand look originals { c with pending } source)

end Copying

namespace Scene

/-- Begin with the root of a copy, the widget `e` at `h`. -/
def startCopy (s : Scene) (h : Nat) (e : Widget) (id : Int32) : Nat × Copying :=
  let (root, scene) := s.duplicate e id
  (root, { scene, copied := OrderedMap.empty.insert h root, pending := [h] })

section

variable {m : Type → Type} [Monad m] (look : Look m) (s : Scene)

/-- Copy a widget and all that it holds under a new id. -/
def copyWithIdM (h : Nat) (id : Int32) : m (Nat × Scene) := do
  let (root, c) := s.startCopy h (← look s.widgets h) id
  let c ← Copying.run look s.size s.walkBound c
  return (root, c.scene)

def copyM (h : Nat) : m (Nat × Scene) := do
  s.copyWithIdM look h (← look s.widgets h).id

end

def copyWithId (s : Scene) (h : Nat) (id : Int32) : Nat × Scene :=
  s.copyWithIdM (m := Id) Look.blank h id

def copy (s : Scene) (h : Nat) : Nat × Scene := s.copyM (m := Id) Look.blank h

theorem copy_eq (s : Scene) (h : Nat) : s.copy h = s.copyWithId h (s.widget h).id := rfl

end Scene

end UiRecovery
