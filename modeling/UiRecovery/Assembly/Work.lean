import UiRecovery.Assembly.Assembler
import UiRecovery.Code.Query
import UiRecovery.Code.Value

/-!
# Work on a method

The state in the middle of a method: the assembler as it has become, what the locals of the method
denote, and the dialogs that it has begun. This module has the moves of which all work is made up;
each changes one thing.

An operation that looks behind a handle, or that can fail, is given an `Access`. It says what is
found behind a handle and what becomes of an error, and nothing else depends on it.
-/

namespace UiRecovery

/-- What a method is assembled for, and whom to ask about it. -/
structure Task (σ : Type) where
  query : Query σ
  oracle : Oracle σ
  origin : Origin

structure Work (σ : Type) extends Assembler σ where
  /-- The widgets that a local may denote. No local is bound to none. -/
  locals : OrderedMap String (OrderedSet Nat) := ∅
  drafts : List Dialog := []
  /-- The draft that a local denotes, by position. -/
  draftLocals : OrderedMap String Nat := ∅
  /-- Attachments that were refused, because a widget would have become its own child. -/
  selfCycles : Nat := 0
  /-- Values that were asked for and not known. -/
  unknowns : Nat := 0
  log : List LogLine := []

/-- How operations come by the widget behind a handle, and how they give up. -/
structure Access (σ : Type) (m : Type → Type) where
  look : Look m
  /-- Give up, in the given state. -/
  fail : Error → Work σ → m (Work σ)

namespace Access

variable {σ : Type} {m : Type → Type} (acc : Access σ m)

/-- The widget behind a handle. -/
def widget (w : Work σ) (h : Nat) : m Widget := acc.look w.scene.widgets h

/-- Go on with a result, or give up with the error that there is in its place. -/
def demand {α : Type} (result : Except Error α) (w : Work σ) (next : α → m (Work σ)) : m (Work σ) :=
  match result with
  | .ok a => next a
  | .error e => acc.fail e w

/-- Behind a handle that was never issued there is a blank widget. An error ends the work, and what
was done up to there is kept. -/
def running : Access σ (Except (Error × Work σ)) where
  look := Look.blank
  fail e w := .error (e, w)

end Access

namespace Work

variable {σ : Type}

def note (w : Work σ) (line : LogLine) : Work σ := { w with log := w.log ++ [line] }

/-! ## Locals -/

/-- What a local denotes. Nothing is known of a local that is not named. -/
def bound (w : Work σ) (name : Option String) : List Nat :=
  match name.bind w.locals.get? with
  | some hs => hs.toList
  | none => []

/-- Let a local denote the given widgets and no others. -/
def bindLocal (w : Work σ) (name : Option String) (hs : List Nat) : Work σ :=
  match name with
  | none => w
  | some name =>
    let hs := OrderedSet.ofList hs
    { w with locals := if hs.isEmpty then w.locals.erase name else w.locals.insert name hs }

/-- Let a local denote neither a widget nor a dialog. -/
def unbindLocal (w : Work σ) (name : Option String) : Work σ :=
  match name with
  | none => w
  | some name => { w with locals := w.locals.erase name, draftLocals := w.draftLocals.erase name }

/-- The draft that a local denotes. -/
def draftOf? (w : Work σ) (name : Option String) : Option Nat := name.bind w.draftLocals.get?

def bindDraft (w : Work σ) (name : Option String) (draft : Nat) : Work σ :=
  match name with
  | none => w
  | some name => { w with draftLocals := w.draftLocals.insert name draft }

def modifyDraft (w : Work σ) (draft : Nat) (f : Dialog → Dialog) : Work σ :=
  { w with drafts := w.drafts.modify draft f }

/-! ## Values -/

/-- The integers that a value may have. If there are none, that is counted. -/
def askInts (w : Work σ) (t : Task σ) (ref : ValueRef) (s : σ) : List Int64 × Work σ :=
  let ints := (t.oracle ref s).ints
  if ints.isEmpty then
    let line := .debug ("Unresolved integer " ++ ref.display ++ " at " ++ t.query.describe s)
    (ints, { w.note line with unknowns := w.unknowns + 1 })
  else (ints, w)

/-- The values that a value may have, as texts. If there are none, that is counted. -/
def askLabels (w : Work σ) (t : Task σ) (ref : ValueRef) (s : σ) : List String × Work σ :=
  let labels := (t.oracle ref s).labels
  if labels.isEmpty then
    let line := .debug ("Unresolved value " ++ ref.display ++ " at " ++ t.query.describe s)
    (labels, { w.note line with unknowns := w.unknowns + 1 })
  else (labels, w)

/-- The integers that are passed at a position, if a call has such a position. -/
def askIntsAt (w : Work σ) (t : Task σ) (position : Option Nat) (s : σ) : List Int64 × Work σ :=
  match position with
  | some i => w.askInts t (.arg i) s
  | none => ([], w)

/-- The texts that are passed at a position, if a call has such a position. -/
def askLabelsAt (w : Work σ) (t : Task σ) (position : Option Nat) (s : σ) : List String × Work σ :=
  match position with
  | some i => w.askLabels t (.arg i) s
  | none => ([], w)

/-! ## Widgets -/

def createWidget (w : Work σ) (id : Int32) (className : String) (kind : WidgetKind) :
    Nat × Work σ :=
  let (h, scene) := w.scene.create id className kind
  (h, { w with scene })

/-- The kind of a widget of some class, before anything is known of it. -/
def kindOf (w : Work σ) (className : String) : WidgetKind :=
  match w.settings.formOf? className with
  | some .text => .text ∅
  | some .group => .group []
  | _ => .view

/-- Take the next dynamic id. The ids descend, and stop at the least word. -/
def drawId (w : Work σ) : Int32 × Work σ :=
  let id := w.nextDynamicId
  (id, { w with nextDynamicId := if id = Int32.minValue then id else id - 1 })

/-- Create a widget that has no id of its own. -/
def createDynamic (w : Work σ) (className : String) (kind : WidgetKind) : Nat × Work σ :=
  let (id, w) := w.drawId
  w.createWidget id className kind

/-- The widget that a place in the code stands for, which `create` makes when the place is first
met. -/
def mergedOr [DecidableEq σ] (w : Work σ) (key : MergeKey σ) (create : Work σ → Nat × Work σ) :
    Nat × Work σ :=
  match w.merged.get? key with
  | some h => (h, w)
  | none =>
    let (h, w) := create w
    (h, { w with merged := w.merged.insert key h })

/-- Add to the content of a screen. -/
def addRoots (w : Work σ) (o : Origin) (hs : List Nat) : Work σ :=
  if hs.isEmpty then w
  else { w with roots := w.roots.update o fun roots => (roots.getD ∅).insertAll hs }

variable {m : Type → Type} [Monad m] (acc : Access σ m)

def modifyWidgetM (w : Work σ) (h : Nat) (f : Widget → Widget) : m (Work σ) := do
  let _ ← acc.widget w h
  return { w with scene := w.scene.modify h f }

def modifyWidgetsM (w : Work σ) (hs : List Nat) (f : Widget → Widget) : m (Work σ) :=
  hs.foldlM (fun w h => w.modifyWidgetM acc h f) w

/-- Name a widget after a local, if there is one. -/
def nameAfterM (w : Work σ) (h : Nat) (name : Option String) : m (Work σ) :=
  match name with
  | none => return w
  | some name => w.modifyWidgetM acc h (·.nameAfter name)

def tagM (w : Work σ) (o : Origin) (h : Nat) : m (Work σ) := do
  let e ← acc.widget w h
  return { w with attribution := w.attribution.tagElement e.guid o }

/-- Attribute a widget and all that it holds. -/
def tagTreeM (w : Work σ) (o : Origin) (h : Nat) : m (Work σ) := do
  let found ← w.scene.depthFirstM acc.look h
  found.foldlM (fun w x => w.tagM acc o x) w

/-- Attach a child to a parent, once. That a widget was to be attached to itself is noted and passed
over, any other error is not. -/
def attachM (w : Work σ) (parent child : Nat) : m (Work σ) := do
  let e ← acc.widget w parent
  if e.children.contains child then return w
  else
    match w.scene.addChild parent child with
    | (.ok _, scene) => return { w with scene }
    | (.error (.selfCycle guid id), scene) =>
      let line := LogLine.warn ("Skipping attachment: " ++ (Error.selfCycle guid id).message)
      return { w.note line with scene, selfCycles := w.selfCycles + 1 }
    | (.error e, scene) => acc.fail e { w with scene }

def attachAllM (w : Work σ) (parents children : List Nat) : m (Work σ) :=
  parents.foldlM (fun w p => children.foldlM (fun w c => w.attachM acc p c) w) w

/-! ## Several at once -/

/-- Do a step for each of the given things, and collect the widgets that the steps give. -/
def collectM {α : Type} (step : Work σ → α → m (Nat × Work σ)) :
    List α → Work σ → m (List Nat × Work σ)
  | [], w => return ([], w)
  | a :: as, w => do
    let (h, w) ← step w a
    let (hs, w) ← collectM step as w
    return (h :: hs, w)

/-- As `collectM`, for steps that give any number of widgets. -/
def collectAllM {α : Type} (step : Work σ → α → m (List Nat × Work σ)) :
    List α → Work σ → m (List Nat × Work σ)
  | [], w => return ([], w)
  | a :: as, w => do
    let (hs, w) ← step w a
    let (hs', w) ← collectAllM step as w
    return (hs ++ hs', w)

/-- A fresh copy of a widget of a layout. -/
def copyRootM (w : Work σ) (h : Nat) : m (Nat × Work σ) := do
  let (c, scene) ← w.scene.copyM acc.look h
  return (c, { w with scene })

/-- Fresh copies of the widgets of a layout, attributed to `o`. -/
def materializeM (o : Origin) (w : Work σ) (layoutId : Int64) : m (List Nat × Work σ) :=
  match (word32? layoutId).bind w.layouts.get? with
  | none => return ([], w.note (.debug ("No layout registered for id " ++ toString layoutId.toInt)))
  | some layout => do
    let (copies, w) ← collectM (copyRootM acc) layout.roots w
    return (copies, ← copies.foldlM (fun w c => w.tagTreeM acc o c) w)

end Work

end UiRecovery
