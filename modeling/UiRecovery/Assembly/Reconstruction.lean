import UiRecovery.Assembly.Run

/-!
# Reconstructions

The result of a recovery: the scene, the menus and the dialogs, and for each component the widgets
at the top of its screens. These are the widgets that code shows there, and all other widgets of the
component that nothing holds.
-/

namespace UiRecovery

structure Reconstruction where
  scene : Scene
  attribution : Attribution
  roots : OrderedMap Origin (OrderedSet Nat)
  menus : List (Origin × Menu)
  dialogs : List (Origin × Dialog)
  skipped : List SkippedMethod

namespace Reconstruction

def rootsOf (r : Reconstruction) (o : Origin) : List Nat :=
  match r.roots.get? o with
  | some roots => roots.toList
  | none => []

/-- The widgets that are attributed to an origin. -/
def elementsOf (r : Reconstruction) (o : Origin) : List Nat :=
  (r.attribution.elementsOf o).filterMap r.scene.findGuid?

def menusOf (r : Reconstruction) (o : Origin) : List Menu :=
  (r.menus.filter fun m => m.1 = o).map Prod.snd

def dialogsOf (r : Reconstruction) (o : Origin) : List Dialog :=
  (r.dialogs.filter fun d => d.1 = o).map Prod.snd

end Reconstruction

namespace Assembler

variable {σ : Type}

/-- The widgets of an origin that nothing holds. -/
def parentless (a : Assembler σ) (o : Origin) : List Nat :=
  let attached := a.scene.attached
  ((a.attribution.elementsOf o).filterMap a.scene.findGuid?).filter fun h => !attached.contains h

/-- Add the widgets of an origin that nothing holds to its roots. -/
def closeOrigin (a : Assembler σ) (roots : OrderedMap Origin (OrderedSet Nat)) (o : Origin) :
    OrderedMap Origin (OrderedSet Nat) :=
  let hs := a.parentless o
  if hs.isEmpty then roots else roots.update o fun known => (known.getD ∅).insertAll hs

/-- Close the recovery. -/
def finish (a : Assembler σ) : Reconstruction where
  scene := a.scene
  attribution := a.attribution
  roots := a.attribution.origins.foldl a.closeOrigin a.roots
  menus := a.menus
  dialogs := a.dialogs
  skipped := a.skipped

/-- What is reported when a recovery is closed. -/
def finishLine (a : Assembler σ) : LogLine :=
  .info ("Reconstructed " ++ toString a.scene.size ++ " elements, "
    ++ toString a.menus.length ++ " menus and " ++ toString a.dialogs.length ++ " dialogs; "
    ++ toString a.skipped.length ++ " methods skipped")

variable [DecidableEq σ]

/-- Assemble all methods and close the recovery. -/
def reconstruct (a : Assembler σ) (q : Query σ) (o : Oracle σ) (units : List (MethodUnit σ)) :
    Reconstruction × List LogLine :=
  let r := a.assemble q o units
  let line := LogLine.info ("Reconstructing UI model from " ++ toString units.length ++ " methods")
  (r.assembler.finish, line :: r.log ++ [r.assembler.finishLine])

end Assembler

/-- The version of the library. -/
def version : String := "0.1.0"

end UiRecovery
