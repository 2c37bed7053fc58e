import Mathlib.Data.List.Pairwise
import UiRecovery.Proofs.Lookups

/-!
# Where widgets come from

A place that gets a widget gets a new one (`Moves.merged_cases`). So each
entry of the table of places was made at some visit, at a site of the place
itself. A `Chronicle` is a list of visits that accounts for a table in this
way. One visit more makes a longer chronicle (`Chronicle.visit`), and any
history does by induction on `Passes`.

As visits follow one another without overlap, no widget is added twice.
The widget that a place stands for was added for this place, then, and is
neither the copy of a layout nor the widget of another site
(`Chronicle.source`).
-/

namespace UiRecovery

namespace Work

variable {σ : Type} [DecidableEq σ] {t : Task σ} {sites : List σ}

/-! ## New entries of the table -/

/-- A place that gets a widget gets one that was not there before. -/
theorem Move.merged_cases {x y : Set Nat × Work σ} (h : Move t sites x y) {key : MergeKey σ}
    {n : Nat} (hget : y.2.merged.get? key = some n) :
    x.2.merged.get? key = some n ∨ key.site ∈ sites ∧ x.2.scene.size ≤ n := by
  have hinsert : ∀ (w : Work σ) (new : MergeKey σ), new.site ∈ sites →
      (w.merged.insert new w.scene.size).get? key = some n →
      w.merged.get? key = some n ∨ key.site ∈ sites ∧ w.scene.size ≤ n := by
    intro w new hnew hget
    rw [OrderedMap.get?_insert] at hget
    split at hget
    · rename_i hkey
      exact Or.inr ⟨hkey ▸ hnew, (Option.some.inj hget).le⟩
    · exact Or.inl hget
  cases h with
  | lookup _ _ hs _ => exact hinsert _ (.lookup _ _) hs hget
  | allocation _ _ hs _ => exact hinsert _ (.allocation _) hs hget
  | _ => exact Or.inl hget

theorem Moves.merged_cases {x y : Set Nat × Work σ} (h : Moves t sites x y) {key : MergeKey σ}
    {n : Nat} (hget : y.2.merged.get? key = some n) :
    x.2.merged.get? key = some n ∨ key.site ∈ sites ∧ x.2.scene.size ≤ n := by
  induction h with
  | refl => exact Or.inl hget
  | tail hmoves hmove ih =>
      rcases hmove.merged_cases hget with hold | ⟨hsite, hle⟩
      · exact ih hold
      · exact Or.inr ⟨hsite, (Moves.grows hmoves).scene.size_le.trans hle⟩

theorem merged_perform_of_unplaced (w : Work σ) (s : σ) {a : Action σ} (ha : a.Unplaced) :
    (w.perform t s a).merged = w.merged := by
  have hmoves : Moves t [] (∅, w) (∅, w.perform t s a) := by
    cases a with
    | inflate signature => exact moves_inflate w s signature
    | showLayout => exact moves_showLayout w s
    | fragment signature => exact moves_fragment w s signature
    | _ => cases ha
  exact hmoves.merged_eq

end Work

namespace Visit

variable {σ : Type} [DecidableEq σ] {key : MergeKey σ} {h : Nat}

/-- The visit copies a layout or puts up a fragment: what it adds is of no
place. -/
def Unplaced (v : Visit σ) : Prop :=
  ∃ action, v.task.query.action v.site = .ok action ∧ action.Unplaced

theorem merges_next {v : Visit σ} {n : Nat} (hv : v.work.toAssembler.Merges n) :
    v.next.toAssembler.Merges n :=
  (Assembler.precedes_of_moves v.moves).merges n hv

theorem size_le (v : Visit σ) : v.work.scene.size ≤ v.next.scene.size :=
  v.moves.grows.scene.size_le

theorem known_or_makes {v : Visit σ} (hv : v.work.toAssembler.Merges 0)
    (hget : v.next.merged.get? key = some h) :
    v.work.merged.get? key = some h ∨ key.site = v.site ∧ v.Makes key h := by
  rcases v.moves.merged_cases hget with hold | ⟨hsite, hlow⟩
  · exact Or.inl hold
  · have hhigh := ((merges_next hv).range key h hget).2
    exact Or.inr ⟨List.mem_singleton.mp hsite, ⟨hlow, hhigh⟩, hget⟩

theorem Makes.not_unplaced {v : Visit σ} (hmakes : v.Makes key h)
    (hv : v.work.toAssembler.Merges 0) : ¬v.Unplaced := by
  rintro ⟨action, haction, hunplaced⟩
  obtain ⟨⟨hlow, -⟩, hget⟩ := hmakes
  obtain ⟨attribution, hnote⟩ := v.work.noteCall_eq v.task v.site
  have hmerged : v.next.merged = v.work.merged := by
    unfold next
    rw [Work.step_of_action haction, hnote]
    exact Work.merged_perform_of_unplaced _ v.site hunplaced
  rw [hmerged] at hget
  have hhigh := (hv.range key h hget).2
  omega

end Visit

namespace Assembler

variable {σ : Type} [DecidableEq σ] {a b : Assembler σ} {vs vs' : List (Visit σ)}

/-! ## Chronicles -/

/-- The visits account for the table of places. -/
structure Chronicle (a : Assembler σ) (vs : List (Visit σ)) : Prop where
  merges : a.Merges 0
  works : ∀ v ∈ vs, v.work.toAssembler.Merges 0
  stops : ∀ v ∈ vs, v.next.scene.size ≤ a.scene.size
  ordered : vs.Pairwise fun v v' => v.next.scene.size ≤ v'.work.scene.size
  made : ∀ key h, a.merged.get? key = some h → ∃ v ∈ vs, v.site = key.site ∧ v.Makes key h

namespace Chronicle

theorem create {settings : Settings} (hcreate : Assembler.create settings = .ok a) :
    a.Chronicle [] := by
  have hmerged : a.merged = ∅ := by rw [create_eq_ok hcreate]
  have hnone : ∀ key h, a.merged.get? key ≠ some h := by
    intro key h hget
    rw [hmerged] at hget
    cases hget
  exact ⟨⟨Nat.zero_le _, fun key h hget => absurd hget (hnone key h),
    fun key _ h hget => absurd hget (hnone key h), fun s id h hget => absurd hget (hnone _ h)⟩,
    by simp, by simp, .nil, fun key h hget => absurd hget (hnone key h)⟩

/-- The scene may grow between two visits, as long as no widget gets
another id. -/
theorem keep (ha : a.Chronicle vs) (hsize : a.scene.size ≤ b.scene.size)
    (hid : ∀ h < a.scene.size, (b.scene.widget h).id = (a.scene.widget h).id)
    (hmerged : b.merged = a.merged) : b.Chronicle vs where
  merges := ha.merges.keep hsize hid hmerged
  works := ha.works
  stops v hv := (ha.stops v hv).trans hsize
  ordered := ha.ordered
  made key h hget := ha.made key h (hmerged ▸ hget)

theorem prepare (ha : a.Chronicle vs) (p : Preparation) : (a.prepare p).Chronicle vs := by
  obtain ⟨scene, layouts, menuTemplates, hprepares, heq⟩ := a.prepare_eq p
  rw [heq]
  exact ha.keep hprepares.size_le (fun h hh => hprepares.id_widget hh) rfl

/-- One visit more. -/
theorem visit {v : Visit σ} (ha : v.work.toAssembler.Chronicle vs) :
    v.next.toAssembler.Chronicle (vs ++ [v]) := by
  refine ⟨Visit.merges_next ha.merges, ?_, ?_, ?_, ?_⟩
  · intro v' hv'
    rcases List.mem_append.mp hv' with hold | hnew
    · exact ha.works v' hold
    · rw [List.mem_singleton.mp hnew]
      exact ha.merges
  · intro v' hv'
    rcases List.mem_append.mp hv' with hold | hnew
    · exact (ha.stops v' hold).trans v.size_le
    · rw [List.mem_singleton.mp hnew]
  · refine List.pairwise_append.mpr ⟨ha.ordered, List.pairwise_singleton _ _, ?_⟩
    intro v' hv' v'' hv''
    rw [List.mem_singleton.mp hv'']
    exact ha.stops v' hv'
  · intro key h hget
    rcases Visit.known_or_makes ha.merges hget with hold | ⟨hsite, hmakes⟩
    · obtain ⟨v', hv', hmade⟩ := ha.made key h hold
      exact ⟨v', List.mem_append_left _ hv', hmade⟩
    · exact ⟨v, List.mem_append_right _ List.mem_cons_self, hsite.symm, hmakes⟩

/-- Any number of visits more. -/
theorem passes (hpasses : Passes a b vs') : ∀ {vs : List (Visit σ)}, a.Chronicle vs →
    b.Chronicle (vs ++ vs') := by
  induction hpasses with
  | idle _ _ hscene hmerged =>
      intro vs ha
      rw [List.append_nil]
      exact ha.keep (by rw [hscene]) (fun h _ => by rw [hscene]) hmerged
  | visit v => exact fun ha => ha.visit
  | append _ _ ih ih' =>
      intro vs ha
      rw [← List.append_assoc]
      exact ih' (ih ha)

/-- No two visits add the same widget. -/
theorem eq_of_adds (ha : a.Chronicle vs) {v v' : Visit σ} {h : Nat} (hv : v ∈ vs) (hv' : v' ∈ vs)
    (hadds : v.Adds h) (hadds' : v'.Adds h) : v = v' := by
  by_contra hne
  have hapart : vs.Pairwise fun v v' => ¬(v.Adds h ∧ v'.Adds h) := by
    refine ha.ordered.imp ?_
    rintro v v' hle ⟨⟨-, hhigh⟩, hlow, -⟩
    omega
  have : Std.Symm fun v v' : Visit σ => ¬(v.Adds h ∧ v'.Adds h) :=
    ⟨fun v v' hnot hboth => hnot hboth.symm⟩
  exact hapart.forall hv hv' hne ⟨hadds, hadds'⟩

/-- The widget of a place was added at a visit of its site, for the place,
and at no other. -/
theorem source (ha : a.Chronicle vs) {key : MergeKey σ} {h : Nat}
    (hget : a.merged.get? key = some h) :
    (∃ v ∈ vs, v.Makes key h) ∧ ∀ v ∈ vs, v.Adds h → v.site = key.site ∧ ¬v.Unplaced := by
  obtain ⟨v, hv, hsite, hmakes⟩ := ha.made key h hget
  refine ⟨⟨v, hv, hmakes⟩, ?_⟩
  intro v' hv' hadds
  obtain rfl := ha.eq_of_adds hv hv' hmakes.1 hadds
  exact ⟨hsite, hmakes.not_unplaced (ha.works v hv)⟩

end Chronicle

/-! ## The past of a state -/

/-- The visits by which requests about its own widgets have led to an
assembler. -/
inductive Past : Assembler σ → List (Visit σ) → Prop
  | create {settings : Settings} {a : Assembler σ} (hcreate : Assembler.create settings = .ok a) :
      Past a []
  | prepare {a : Assembler σ} {vs : List (Visit σ)} (ha : Past a vs) (p : Preparation)
      (hp : ∀ h ∈ p.handles, h < a.scene.size) : Past (a.prepare p) vs
  | assemble {a : Assembler σ} {vs : List (Visit σ)} (ha : Past a vs) (call : AssemblyCall σ) :
      Past (a.assembled call) (vs ++ a.callVisits call)

theorem Past.lawful (ha : a.Past vs) : a.Lawful := by
  induction ha with
  | create hcreate => exact .create hcreate
  | prepare _ p hp ih => exact .serve ih (.prepare p) hp
  | assemble _ call ih => exact .serve ih (.assemble call) trivial

theorem Lawful.past (ha : a.Lawful) : ∃ vs, a.Past vs := by
  induction ha with
  | create hcreate => exact ⟨[], .create hcreate⟩
  | serve _ r hr ih =>
      obtain ⟨vs, hvs⟩ := ih
      cases r with
      | prepare p => exact ⟨vs, hvs.prepare p hr⟩
      | assemble call => exact ⟨_, hvs.assemble call⟩

theorem Past.chronicle (ha : a.Past vs) : a.Chronicle vs := by
  induction ha with
  | create hcreate => exact .create hcreate
  | prepare _ p _ ih => exact ih.prepare p
  | assemble _ call ih => exact ih.passes (passes_call _ call)

end Assembler

namespace Work

variable {σ : Type} [DecidableEq σ] {w : Work σ} {vs : List (Visit σ)}

/-- The visits that have led to the state in the middle of a method. -/
def Past (w : Work σ) (vs : List (Visit σ)) : Prop :=
  ∃ (a : Assembler σ) (t : Task σ) (before sites : List σ) (earlier : List (Visit σ)),
    a.Past earlier ∧ before <+: sites ∧ run t before (a.begin t sites) = (w, none) ∧
      vs = earlier ++ visits t before (a.begin t sites)

/-- A state is underway if it has a past. -/
theorem underway_iff_past : w.Underway ↔ ∃ vs, w.Past vs := by
  constructor
  · rintro ⟨a, t, before, sites, ha, hbefore, hrun⟩
    obtain ⟨earlier, hearlier⟩ := ha.past
    exact ⟨_, a, t, before, sites, earlier, hearlier, hbefore, hrun, rfl⟩
  · rintro ⟨vs, a, t, before, sites, earlier, hearlier, hbefore, hrun, -⟩
    exact ⟨a, t, before, sites, hearlier.lawful, hbefore, hrun⟩

theorem Past.chronicle (hw : w.Past vs) : w.toAssembler.Chronicle vs := by
  obtain ⟨a, t, before, sites, earlier, hearlier, -, hrun, rfl⟩ := hw
  have hpasses := Assembler.passes_run t before (a.begin t sites)
  rw [hrun] at hpasses
  exact hearlier.chronicle.passes hpasses

end Work

end UiRecovery
