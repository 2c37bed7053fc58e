import UiRecovery.Attribution
import UiRecovery.Dialog
import UiRecovery.Log
import UiRecovery.Menu
import UiRecovery.Scene.Copy
import UiRecovery.Settings

/-!
# Assemblers

What a recovery knows between two methods. An assembler is prepared first: the widgets of the
layouts are put into its scene, and layouts and menus are registered under their resource ids.
Methods are then assembled one after another, each on top of what the ones before it left.
-/

namespace UiRecovery

/-- A layout, by the widgets that it declares. -/
inductive Layout where
  /-- One root widget. -/
  | view (root : Nat)
  /-- Widgets that go straight into the parent. -/
  | merge (roots : List Nat)
deriving DecidableEq, Repr

def Layout.roots : Layout → List Nat
  | .view root => [root]
  | .merge roots => roots

/-- The place in the code that a recovered widget stands for. Whatever method reaches such a place,
and for whatever component, it means the same widget. -/
inductive MergeKey (σ : Type) where
  /-- The construction of a lookup pair, for one of the ids that are looked up. -/
  | lookup (site : σ) (id : Int32)
  | allocation (site : σ)
deriving DecidableEq, Repr

/-- A method that was given up. -/
structure SkippedMethod where
  context : FailureContext
  reason : String
deriving DecidableEq, Repr

structure Assembler (σ : Type) where
  settings : Settings
  scene : Scene := {}
  attribution : Attribution := {}
  layouts : OrderedMap Int32 Layout := ∅
  menuTemplates : OrderedMap Int32 Menu := ∅
  /-- The widgets that places in the code stand for. -/
  merged : OrderedMap (MergeKey σ) Nat := ∅
  /-- The id that the next widget without one will take. -/
  nextDynamicId : Int32
  /-- The content of the screens, as far as code sets it. -/
  roots : OrderedMap Origin (OrderedSet Nat) := ∅
  menus : List (Origin × Menu) := []
  dialogs : List (Origin × Dialog) := []
  skipped : List SkippedMethod := []

namespace Assembler

variable {σ : Type}

/-- An assembler without widgets. The settings have to be valid. -/
def create (settings : Settings) : Except Error (Assembler σ) :=
  match settings.validate with
  | .ok settings => .ok { settings, nextDynamicId := settings.dynamicIdStart }
  | .error e => .error e

/-- Register a layout in place of any other with this id. Its roots have to be in the scene. -/
def registerLayout (a : Assembler σ) (id : Int32) (layout : Layout) : Except Error (Assembler σ) :=
  match layout.roots.find? fun h => a.scene.size ≤ h with
  | some h => .error (.unknownWidget h a.scene.size)
  | none => .ok { a with layouts := a.layouts.insert id layout }

/-- Register a menu in place of any other with this id. -/
def registerMenu (a : Assembler σ) (id : Int32) (menu : Menu) : Assembler σ :=
  { a with menuTemplates := a.menuTemplates.insert id menu }

/-- What code shows for a component. -/
def screens (a : Assembler σ) (o : Origin) : OrderedSet Nat := (a.roots.get? o).getD ∅

end Assembler

end UiRecovery
