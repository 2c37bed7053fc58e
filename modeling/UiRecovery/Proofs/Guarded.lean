import UiRecovery.Proofs.Handles

/-!
# Guarded access

A scene shows a blank widget behind a handle that it never issued, and
changes nothing there. A guarded access does neither: work that comes to a
handle outside the scene ends there, with `none`. The operations themselves
are the same, as they leave it to the access what is behind a handle.

`Work.Bounded` is enough for all of them: where the handles that work can
get hold of are in range, it never ends so, and comes to what it comes to
without a guard (`run_eq`).
-/

namespace UiRecovery

namespace Guarded

/-- Behind a handle that was never issued there is nothing. -/
def look : Look Option := fun ws h => ws[h]?

end Guarded

def Access.guarded {σ : Type} : Access σ (ExceptT (Error × Work σ) Option) where
  look ws h := ExceptT.lift (Guarded.look ws h)
  fail e w := throw (e, w)

namespace Guarded

/-! ## Scenes -/

def flatten (s : Scene) (h : Nat) : Option (List Nat) := s.flattenM look h

def find (s : Scene) (h : Nat) (id : Int32) : Option (Option Nat) := s.findM look h id

def copyWithId (s : Scene) (h : Nat) (id : Int32) : Option (Nat × Scene) :=
  s.copyWithIdM look h id

def copy (s : Scene) (h : Nat) : Option (Nat × Scene) := s.copyM look h

variable {s : Scene} {h : Nat}

theorem look_eq (hh : h < s.size) : look s.widgets h = some (s.widget h) := Scene.get?_of_lt hh

/-- In a scene without dangling children all that a widget holds is shown. -/
theorem look_reached (hs : s.InRange) (hh : h < s.size) :
    ∀ x, s.Reaches h x → look s.widgets x = some (s.widget x) :=
  fun _ hx => look_eq (hs.reaches hh hx)

/-- Whatever is appended to a scene, what was in it is still shown. -/
theorem shows {limit : Nat} (hh : h < s.size) (hlimit : s.size ≤ limit) :
    look.Shows limit s h := by
  intro more
  unfold look
  rw [List.getElem?_take_of_lt (Nat.lt_of_lt_of_le hh hlimit), List.getElem?_append_left hh]
  exact look_eq hh

theorem flatten_eq (hs : s.InRange) (hh : h < s.size) : flatten s h = some (s.flatten h) :=
  Scene.flattenM_eq (look_reached hs hh)

theorem find_eq (hs : s.InRange) (hh : h < s.size) (id : Int32) :
    find s h id = some (s.find? h id) :=
  Scene.findM_eq (look_reached hs hh) id

theorem copyWithId_eq (hs : s.InRange) (hh : h < s.size) (id : Int32) :
    copyWithId s h id = some (s.copyWithId h id) := by
  rw [Scene.copyWithId_eq]
  exact Scene.copyWithIdM_eq (look_reached hs hh) id

theorem copy_eq (hs : s.InRange) (hh : h < s.size) : copy s h = some (s.copy h) :=
  Scene.copyM_eq (look_reached hs hh)

/-! ## Runs -/

variable {σ : Type} [DecidableEq σ]

def step (t : Task σ) (w : Work σ) (s : σ) : Option (Work σ × Option Error) :=
  (w.stepM .guarded t s).run.map Work.outcome

def run (t : Task σ) : List σ → Work σ → Option (Work σ × Option Error)
  | [], w => some (w, none)
  | s :: rest, w => do
    match ← step t w s with
    | (w, none) => run t rest w
    | (w, some e) => return (w, some e)

variable {t : Task σ} {sites : List σ} {w : Work σ}

open Work (Bounded)

/-- A guarded access shows what is in range. -/
theorem guarded_serves : Access.guarded.Serves t sites Bounded where
  moves hx hmoves := hmoves.bounded hx
  held hw hh := congrArg ExceptT.lift (look_eq (hw.held _ hh))
  layout hw hlayout hh hx := by
    have hroot := hw.toAssembler.layouts _ _ hlayout _ hh
    exact congrArg ExceptT.lift (look_reached hw.toAssembler.scene hroot _ hx)

theorem step_eq (hw : Bounded (∅, w)) (s : σ) : step t w s = some (w.step t s) := by
  have hnoted : Bounded (∅, w.noteCall t s) :=
    (Work.moves_noteCall (t := t) w (List.mem_singleton_self s)).bounded hw
  unfold step Work.stepM
  rw [guarded_serves.followM_eq (List.mem_singleton_self s) hnoted, Work.step_eq]
  cases t.query.action s with
  | ok a => rfl
  | error e => rfl

theorem run_eq : ∀ (sites : List σ) {w : Work σ}, Bounded (∅, w) →
    run t sites w = some (Work.run t sites w)
  | [], _, _ => rfl
  | s :: rest, w, hw => by
      have hnext : Bounded (∅, (w.step t s).1) :=
        (Work.moves_step (t := t) w (List.mem_singleton_self s)).bounded hw
      rw [run, step_eq hw, Work.run]
      cases hstep : w.step t s with
      | mk w' failure =>
          rw [hstep] at hnext
          cases failure with
          | none => exact run_eq rest hnext
          | some e => rfl

end Guarded

end UiRecovery
