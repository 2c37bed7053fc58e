import UiRecovery.Proofs.Provenance
import UiRecovery.Proofs.Setters

/-!
# Lookups of unknown ids

If nothing is known of the id that a lookup asks for, -1 stands in for it,
and the lookup goes on as for any other id. So the widget that it finds is
the placeholder of its own place just if no container of the receiver holds
a widget with the id -1, or if the one that is found is the placeholder
already. But -1 is also the id of widgets that have none, those of layouts
among them. One of these is then taken for the placeholder, and takes what
later calls say of it.
-/

namespace UiRecovery

namespace Work

variable {σ : Type} [DecidableEq σ] {t : Task σ} {s : σ} {className : String}
  {containers : List Nat} {w : Work σ} {id : Int32}

/-! ## One id -/

/-- A widget that a container holds is taken as it is, and for no place. -/
theorem lookupOne_of_held {x : Nat}
    (hheld : (containers.findSome? fun c => w.scene.find? c id) = some x) :
    (lookupOne t s className containers w id).1 = x ∧
      (lookupOne t s className containers w id).2.merged = w.merged := by
  have hmeant : w.meant? s containers id = some x := by
    unfold meant?
    rw [hheld, Option.some_or]
  rw [lookupOne_of_meant hmeant]
  exact ⟨rfl, w.merged_nameAfter x _⟩

/-- What no container holds is that of the place. -/
theorem merged_lookupOne_of_not_held
    (hheld : (containers.findSome? fun c => w.scene.find? c id) = none) :
    (lookupOne t s className containers w id).2.merged.get? (.lookup s id) =
      some (lookupOne t s className containers w id).1 := by
  have hmeant : w.meant? s containers id = w.merged.get? (.lookup s id) := by
    unfold meant?
    rw [hheld, Option.none_or]
  cases hget : w.merged.get? (.lookup s id) with
  | some x =>
      rw [lookupOne_of_meant (hmeant.trans hget)]
      refine Eq.trans ?_ hget
      exact congrArg (·.get? (.lookup s id)) (w.merged_nameAfter x (t.query.definedLocal s))
  | none =>
      rw [lookupOne_of_not_meant (hmeant.trans hget)]
      have hmerged := (w.withNew s id className).merged_nameAfter w.scene.size
        (t.query.definedLocal s)
      refine (congrArg (·.get? (.lookup s id)) hmerged).trans ?_
      exact (OrderedMap.get?_insert ..).trans (if_pos rfl)

/-- What is taken is that of the place, unless a container holds something
else. -/
theorem lookupOne_placed_iff (t : Task σ) (s : σ) (className : String) (containers : List Nat)
    (w : Work σ) (id : Int32) :
    let r := lookupOne t s className containers w id
    r.2.merged.get? (.lookup s id) = some r.1 ↔
      ∀ x, (containers.findSome? fun c => w.scene.find? c id) = some x →
        w.merged.get? (.lookup s id) = some x := by
  intro r
  cases hheld : containers.findSome? fun c => w.scene.find? c id with
  | some x =>
      obtain ⟨hfst, hmerged⟩ : r.1 = x ∧ r.2.merged = w.merged := lookupOne_of_held hheld
      rw [hfst, hmerged]
      simp
  | none =>
      constructor
      · intro _ x hx
        cases hx
      · intro _
        exact merged_lookupOne_of_not_held hheld

theorem lookupIds_of_unresolved {ints : List Int64} (hints : ∀ i ∈ ints, word32? i = none) :
    lookupIds ints = [-1] := by
  rw [lookupIds_eq, if_pos (List.filterMap_eq_nil_iff.mpr hints)]

theorem looked_of_unresolved {call : σ}
    (hunresolved : ∀ i ∈ (t.oracle (.arg 0) call).ints, word32? i = none) (w : Work σ) :
    let r := lookupOne t s className (w.bound (t.query.receiver call)) (w.asked t s call) (-1)
    w.looked t s call className = ([r.1], r.2) := by
  unfold looked
  rw [lookupIds_of_unresolved hunresolved]
  rfl

/-! ## The placeholder -/

/-- At the construction of a lookup pair of whose id nothing is known, the
local comes to denote one widget, with the id -1. It is the placeholder of
the place just if what the containers of the receiver hold under -1 is this
placeholder or nothing. Then it was added at a visit of this site, for the
place, and at no other visit. Calls on the local change no other widget, as
long as the local denotes it. -/
theorem unresolved_binds_placeholder {call : σ} {name : String} {vs : List (Visit σ)}
    (hw : w.Past vs) (hlookup : t.query.isFindViewById s = true)
    (hconstruction : t.query.constructionOf s = .ok s) (hcall : t.query.viewLookupOf s = .ok call)
    (hname : t.query.definedLocal s = some name)
    (hunresolved : ∀ i ∈ (t.oracle (.arg 0) call).ints, word32? i = none) :
    let place : MergeKey σ := .lookup s (-1)
    let held := (w.bound (t.query.receiver call)).findSome? fun c => w.scene.find? c (-1)
    let next := (w.step t s).1
    (w.step t s).2 = none ∧ ∃ h, next.bound (some name) = [h] ∧ (next.scene.widget h).id = -1 ∧
      (∀ x, held = some x → h = x) ∧
      (next.merged.get? place = some h ↔ ∀ x, held = some x → w.merged.get? place = some x) ∧
      (next.merged.get? place = some h →
        (∃ v ∈ vs ++ [⟨t, w, s⟩], v.Makes place h) ∧
          ∀ v ∈ vs ++ [⟨t, w, s⟩], v.Adds h → v.site = s ∧ ¬v.Unplaced) ∧
      ∀ (t' : Task σ) (s' : σ) (signature : String) (w' : Work σ),
        t'.query.action s' = .ok (.call signature) → t'.query.receiver s' = some name →
        w'.bound (some name) = [h] →
        ∀ x, x ≠ h → (w'.step t' s').1.scene.get? x = w'.scene.get? x := by
  intro place held next
  obtain ⟨className, hrhs⟩ := Query.rhs_of_constructionOf hconstruction
  have hstep := step_of_construction hlookup hconstruction hcall hrhs w
  have hanswers := (answers_looked (underway_iff_past.mpr ⟨vs, hw⟩) t s call className).1
  let r := lookupOne t s className (w.bound (t.query.receiver call)) (w.asked t s call) (-1)
  rw [lookupIds_of_unresolved hunresolved] at hanswers
  rw [looked_of_unresolved hunresolved] at hstep hanswers
  obtain ⟨hanswer, -⟩ := List.forall₂_cons.mp hanswers
  have hnext : next.toAssembler = r.2.toAssembler := by
    show (w.step t s).1.toAssembler = _
    rw [hstep]
    exact (toAssembler_bindLocal _ _).trans (toAssembler_bindLocal _ _)
  -- Asking for the id changes neither the scene nor the table.
  obtain ⟨attribution, unknowns, log, hasked⟩ := w.asked_eq t s call
  have hplaced := lookupOne_placed_iff t s className (w.bound (t.query.receiver call))
    (w.asked t s call) (-1)
  have hheld : ∀ x, held = some x → r.1 = x := by
    intro x hx
    refine (lookupOne_of_held ?_).1
    rw [hasked]
    exact hx
  refine ⟨by rw [hstep], r.1, ?_, ?_, hheld, ?_, ?_, ?_⟩
  · show (w.step t s).1.bound (some name) = [r.1]
    rw [hstep, hname, bound_bindLocal, if_pos rfl]
    rfl
  · rw [hnext]
    exact hanswer.id_eq
  · rw [hnext]
    refine hplaced.trans ?_
    rw [hasked]
  · intro hget
    have hchronicle : next.toAssembler.Chronicle (vs ++ [⟨t, w, s⟩]) :=
      Assembler.Chronicle.visit (v := ⟨t, w, s⟩) hw.chronicle
    exact hchronicle.source hget
  · intro t' s' signature w' haction hreceiver hbound x hx
    refine get?_step_call haction ?_
    rw [hreceiver, hbound]
    simpa using hx

end Work

/-! ## A layout with and without ids -/

/-- A screen is shown, a view is looked up in it, and the view is taken for
a button, which gets a text. -/
def Query.lookupThenText : Query Nat :=
  { Query.lookupPair with
    containsCall := fun s => decide (s ≠ 2)
    callSignature := fun s =>
      if s = 3 then some "void setText(java.lang.CharSequence)"
      else Query.lookupPair.callSignature s
    isAssignment := fun s => decide (s = 1 ∨ s = 2)
    receiver := fun s => if s = 3 then some "button" else some "view" }

/-- Nothing is known of the id. -/
def Task.unknownLookup : Task Nat where
  query := .lookupThenText
  oracle _ s :=
    if s = 0 then .known (.ofList [.int 100])
    else if s = 3 then .known (.ofList [.str "Send"])
    else .unknown
  origin := .activity "Main" ""

def Assembler.lookedTwice : Assembler Nat :=
  labelledBox.serve (.assemble (.method .unknownLookup [0, 1, 2, 3]))

/-- The state before the construction, when the code comes again, with a
layout all of whose widgets have ids. -/
def Work.lookedTwice : Work Nat :=
  (run .unknownLookup [0, 1] (Assembler.lookedTwice.begin .unknownLookup [0, 1, 2, 3])).1

theorem Work.underway_lookedTwice : lookedTwice.Underway :=
  underway_run (.serve Assembler.lawful_labelledBox _ trivial) ⟨[2, 3], rfl⟩ (by decide +kernel)

/-- The placeholder of the first time is found again. -/
theorem Work.unresolved_binds_placeholder_lookedTwice :
    let t := Task.unknownLookup
    let w := Work.lookedTwice
    let next := (w.step t 2).1
    w.scene.size = 7 ∧ next.scene.size = 7 ∧ next.bound (some "button") = [4] ∧
      ∃ vs, w.Past vs ∧ (∃ v ∈ vs ++ [⟨t, w, 2⟩], v.Makes (.lookup 2 (-1)) 4) ∧
        ∀ v ∈ vs ++ [⟨t, w, 2⟩], v.Adds 4 → v.site = 2 ∧ ¬v.Unplaced := by
  intro t w next
  obtain ⟨vs, hpast⟩ := underway_iff_past.mp underway_lookedTwice
  have hsize : w.scene.size = 7 ∧ next.scene.size = 7 := by decide +kernel
  have hbound : next.bound (some "button") = [4] := by decide +kernel
  obtain ⟨-, h, hh, -, -, -, hsource, -⟩ :=
    unresolved_binds_placeholder (t := t) (s := 2) hpast rfl rfl rfl rfl nofun
  obtain rfl : 4 = h := (List.cons.inj (hbound.symm.trans hh)).1
  exact ⟨hsize.1, hsize.2, hbound, vs, hpast, hsource (by decide +kernel)⟩

def Preparation.namelessLabel : List Preparation :=
  [.create 1 "android.widget.LinearLayout" (.group []),
    .create (-1) "android.widget.TextView" (.text ∅),
    .addChild 0 1,
    .registerLayout 100 (.view 0)]

/-- An assembler that knows one layout, with a label that has no id. -/
def Assembler.namelessLabel : Assembler Nat :=
  Preparation.namelessLabel.foldl Assembler.prepare { settings := {}, nextDynamicId := -90000 }

/-- The state before the construction. -/
def Work.namelessLabel : Work Nat :=
  (run .unknownLookup [0, 1] (Assembler.namelessLabel.begin .unknownLookup [0, 1, 2, 3])).1

/-- The label of the layout is taken for the placeholder, and the text of
the button becomes its text. -/
theorem Work.placeholder_taken_from_layout :
    let t := Task.unknownLookup
    let w := Work.namelessLabel
    let next := (w.step t 2).1
    let shown : Visit Nat := ⟨t, Assembler.namelessLabel.begin t [0, 1, 2, 3], 0⟩
    t.query.isFindViewById 2 = true ∧ t.query.constructionOf 2 = .ok 2 ∧
      t.query.viewLookupOf 2 = .ok 1 ∧ (t.oracle (.arg 0) 1).ints = [] ∧
      shown.Adds 3 ∧ shown.Unplaced ∧ next.bound (some "button") = [3] ∧
      next.merged.get? (.lookup 2 (-1)) = none ∧
      ((next.step t 3).1.scene.widget 3).texts.toList = [Attr.dynamic "text" "Send"] := by
  intro t w next shown
  have hadds : shown.Adds 3 := by
    unfold Visit.Adds
    decide +kernel
  have hunplaced : shown.Unplaced := ⟨.showLayout, by decide +kernel, trivial⟩
  have hbound : next.bound (some "button") = [3] ∧ next.merged.get? (.lookup 2 (-1)) = none := by
    decide +kernel
  have htext : ((next.step t 3).1.scene.widget 3).texts.toList = [Attr.dynamic "text" "Send"] := by
    decide +kernel
  exact ⟨rfl, rfl, rfl, rfl, hadds, hunplaced, hbound.1, hbound.2, htext⟩

end UiRecovery
