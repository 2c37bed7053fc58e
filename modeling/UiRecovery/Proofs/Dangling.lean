import UiRecovery.Proofs.Guarded
import UiRecovery.Proofs.Roots

/-!
# No handle dangles

`Reachable` lets a caller pass any number for a handle. Here the caller is
held to the handles of the scene: `Lawful` assemblers are those that such
requests lead to, with any code and any answers in between. A layout need
not be among the promises, since it is checked when it is registered.

The main statement, `handles_in_range`, has both sides of the matter. All
handles that are kept anywhere are in range, and a further request, served
with every access guarded, never meets a handle that is not.
-/

namespace UiRecovery

/-- The handles that a caller passes and that nothing checks. -/
def Preparation.handles : Preparation → List Nat
  | .addChild parent child => [parent, child]
  | .addChildren parent children => parent :: children
  | .copy h => [h]
  | .copyWithId h _ => [h]
  | .revise h _ => [h]
  | .addMask h _ => [h]
  | _ => []

/-- The request speaks of widgets of the assembler's own scene. -/
def Request.Own {σ : Type} (a : Assembler σ) : Request σ → Prop
  | .prepare p => ∀ h ∈ p.handles, h < a.scene.size
  | .assemble _ => True

/-- An assembler that requests about its own widgets lead to. -/
inductive Assembler.Lawful {σ : Type} [DecidableEq σ] : Assembler σ → Prop
  | create {settings : Settings} {a : Assembler σ} (hcreate : Assembler.create settings = .ok a) :
      Lawful a
  | serve {a : Assembler σ} (ha : Lawful a) (r : Request σ) (hr : r.Own a) : Lawful (a.serve r)

/-! ## Preparations keep the range -/

namespace Scene

variable {s : Scene}

theorem InRange.attach (hs : s.InRange) (parent : Nat) {cs : List Nat}
    (hcs : ∀ c ∈ cs, c < s.size) : (s.modify parent (·.appendChildren cs)).InRange := by
  refine hs.modify parent fun e c hc => ?_
  rcases Widget.mem_children_appendChildren hc with hc | hc
  · exact Or.inl hc
  · exact Or.inr (hcs c hc)

theorem InRange.addChild (hs : s.InRange) (parent : Nat) {child : Nat} (hchild : child < s.size) :
    (s.addChild parent child).2.InRange := by
  rcases s.addChild_cases parent child with hadd | ⟨e, -, -, hadd⟩ | ⟨-, hadd⟩
  · rwa [hadd]
  · rwa [hadd]
  · rw [hadd]
    refine hs.attach parent ?_
    simpa using hchild

theorem InRange.addChildren (hs : s.InRange) (parent : Nat) {cs : List Nat}
    (hcs : ∀ c ∈ cs, c < s.size) : (s.addChildren parent cs).2.InRange := by
  rcases s.addChildren_cases parent cs with hadd | ⟨e, -, -, hadd⟩ | ⟨-, hadd⟩
  · rwa [hadd]
  · rwa [hadd]
  · rw [hadd]
    exact hs.attach parent hcs

end Scene

namespace Assembler

variable {σ : Type} {a : Assembler σ}

theorem inRange_prepare (hscene : a.scene.InRange) {p : Preparation}
    (hp : ∀ h ∈ p.handles, h < a.scene.size) : (a.prepare p).scene.InRange := by
  cases p with
  | create id className kind => exact hscene.create id className kind.children_bare
  | addChild parent child =>
      exact hscene.addChild parent (hp child (by simp [Preparation.handles]))
  | addChildren parent children =>
      exact hscene.addChildren parent fun c hc => hp c (List.mem_cons_of_mem parent hc)
  | copy h => exact hscene.copyWithId h _
  | copyWithId h id => exact hscene.copyWithId h id
  | revise h f => exact hscene.modify h fun _ _ hc => Or.inl hc
  | addMask h mask =>
      refine hscene.modify h fun e c hc => Or.inl ?_
      rwa [← (e.learns_addMask mask).children_eq]
  | drawGuid => exact hscene
  | registerLayout id layout =>
      dsimp only [prepare, registerLayout]
      cases layout.roots.find? fun h => a.scene.size ≤ h with
      | none => exact hscene
      | some h => exact hscene
  | registerMenu id menu => exact hscene

variable [DecidableEq σ]

theorem Bounded.prepare (ha : a.Bounded) {p : Preparation}
    (hp : ∀ h ∈ p.handles, h < a.scene.size) : (a.prepare p).Bounded := by
  obtain ⟨scene, layouts, menuTemplates, hprepares, hprepare⟩ := a.prepare_eq p
  have hsize : a.scene.size ≤ (a.prepare p).scene.size := by
    rw [hprepare]
    exact hprepares.size_le
  have hmerged : (a.prepare p).merged = a.merged := by rw [hprepare]
  have hroots : (a.prepare p).roots = a.roots := by rw [hprepare]
  refine ⟨inRange_prepare ha.scene hp, ?_, ?_, ?_⟩
  · intro id layout hget h hh
    refine Nat.lt_of_lt_of_le ?_ hsize
    rcases a.layouts_prepare p with hsame | ⟨id', layout', hchecked, hinsert⟩
    · rw [hsame] at hget
      exact ha.layouts id layout hget h hh
    · rw [hinsert, OrderedMap.get?_insert] at hget
      split at hget
      · obtain rfl := Option.some.inj hget
        exact hchecked h hh
      · exact ha.layouts id layout hget h hh
  · intro key h hget
    rw [hmerged] at hget
    exact (ha.merged key h hget).trans_le hsize
  · intro o roots hget h hh
    rw [hroots] at hget
    exact (ha.roots o roots hget h hh).trans_le hsize

theorem Lawful.bounded (ha : a.Lawful) : a.Bounded := by
  induction ha with
  | create hcreate =>
      rw [create_eq_ok hcreate]
      refine ⟨?_, nofun, nofun, nofun⟩
      intro h c hc
      simp [Scene.children, Scene.widget, Scene.get?] at hc
  | serve _ r hr ih =>
      cases r with
      | prepare p => exact ih.prepare hr
      | assemble c => exact kept_bounded.assembled ih c

theorem Lawful.reachable (ha : a.Lawful) : a.Reachable := by
  induction ha with
  | create hcreate => exact ⟨_, _, hcreate, [], rfl⟩
  | serve _ r _ ih => exact ih.serve r

/-! ## Guarded requests -/

end Assembler

namespace Guarded

variable {σ : Type}

/-- An attachment looks behind the parent only, a revision behind the
widget that is revised. -/
def prepare (a : Assembler σ) : Preparation → Option (Assembler σ)
  | .addChild parent child =>
      (a.scene.get? parent).map fun _ => a.prepare (.addChild parent child)
  | .addChildren parent children =>
      (a.scene.get? parent).map fun _ => a.prepare (.addChildren parent children)
  | .copy h => (copy a.scene h).map fun r => { a with scene := r.2 }
  | .copyWithId h id => (copyWithId a.scene h id).map fun r => { a with scene := r.2 }
  | .revise h f => (a.scene.get? h).map fun _ => a.prepare (.revise h f)
  | .addMask h mask => (a.scene.get? h).map fun _ => a.prepare (.addMask h mask)
  | p => some (a.prepare p)

variable [DecidableEq σ]

/-- Of one method after others the run is guarded. What follows it hands
over dialogs, counts and records, and looks behind no handle. -/
def assembleNext (q : Query σ) (o : Oracle σ) (r : UnitsRun σ) (u : MethodUnit σ) :
    Option (UnitsRun σ) :=
  let t : Task σ := ⟨q, o, u.origin⟩
  (run t u.sites (r.assembler.begin t u.sites)).map fun _ => Assembler.assembleNext q o r u

def serve (a : Assembler σ) : Request σ → Option (Assembler σ)
  | .prepare p => prepare a p
  | .assemble (.method t sites) =>
      (run t sites (a.begin t sites)).map fun _ => (a.assembleMethod t sites).assembler
  | .assemble (.units q o units) =>
      (units.foldlM (assembleNext q o) { assembler := a, stats := [], log := [] }).map
        UnitsRun.assembler

variable {a : Assembler σ}

omit [DecidableEq σ] in
theorem prepare_eq (hscene : a.scene.InRange) {p : Preparation}
    (hp : ∀ h ∈ p.handles, h < a.scene.size) : prepare a p = some (a.prepare p) := by
  cases p with
  | addChild parent child =>
      have hparent : parent < a.scene.size := hp parent List.mem_cons_self
      rw [prepare, Scene.get?_of_lt hparent]
      rfl
  | addChildren parent children =>
      have hparent : parent < a.scene.size := hp parent List.mem_cons_self
      rw [prepare, Scene.get?_of_lt hparent]
      rfl
  | copy h =>
      rw [prepare, copy_eq hscene (hp h List.mem_cons_self)]
      rfl
  | copyWithId h id =>
      rw [prepare, copyWithId_eq hscene (hp h List.mem_cons_self)]
      rfl
  | revise h f =>
      rw [prepare, Scene.get?_of_lt (hp h List.mem_cons_self)]
      rfl
  | addMask h mask =>
      rw [prepare, Scene.get?_of_lt (hp h List.mem_cons_self)]
      rfl
  | _ => rfl

theorem run_begin_eq (ha : a.Bounded) (t : Task σ) (sites : List σ) :
    run t sites (a.begin t sites) = some (Work.run t sites (a.begin t sites)) :=
  run_eq sites (Assembler.kept_bounded.begins a _ ha)

theorem assembleNext_eq {r : UnitsRun σ} (hr : r.assembler.Bounded) (q : Query σ)
    (o : Oracle σ) (u : MethodUnit σ) :
    assembleNext q o r u = some (Assembler.assembleNext q o r u) := by
  unfold assembleNext
  dsimp only
  rw [run_begin_eq hr]
  rfl

/-- A request about an assembler's own widgets meets no other handle. -/
theorem serve_eq (ha : a.Bounded) {r : Request σ} (hr : r.Own a) :
    serve a r = some (a.serve r) := by
  cases r with
  | prepare p => exact prepare_eq ha.scene hr
  | assemble c =>
      cases c with
      | method t sites =>
          rw [serve, run_begin_eq ha]
          rfl
      | units q o units =>
          have hunits : units.foldlM (assembleNext q o) { assembler := a, stats := [], log := [] } =
              some (units.foldl (Assembler.assembleNext q o)
                { assembler := a, stats := [], log := [] }) := by
            refine foldlM_eq_pure (P := fun r : UnitsRun σ => r.assembler.Bounded) ?_ ha
            intro u _ r hr
            refine ⟨assembleNext_eq hr q o u, ?_⟩
            exact Assembler.assembleNext_keeps
              (fun _ t sites ha => Assembler.kept_bounded.assembleMethod ha t sites)
              Assembler.kept_bounded.skips hr q o u
          rw [serve, hunits]
          rfl

end Guarded

/-! ## All handles -/

namespace Assembler

variable {σ : Type} [DecidableEq σ] {a : Assembler σ}

theorem lt_of_mem_elementHandles {σ : Type} {a : Assembler σ} {o : Origin} {h : Nat}
    (hh : h ∈ a.elementHandles o) : h < a.scene.size := by
  obtain ⟨g, -, hg⟩ := List.mem_filterMap.mp hh
  exact (Scene.findGuid?_eq_some hg).1

theorem Bounded.rootsOf_finish (ha : a.Bounded) {o : Origin} {h : Nat}
    (hh : h ∈ a.finish.rootsOf o) : h < a.scene.size := by
  rw [Assembler.rootsOf_finish] at hh
  rcases OrderedSet.mem_insertAll.mp hh with hh | hh
  · obtain ⟨roots, hroots, hh⟩ := OrderedSet.mem_getD_empty.mp hh
    exact ha.roots o roots hroots h hh
  · exact lt_of_mem_elementHandles (mem_parentless.mp hh).1

theorem Bounded.run (ha : a.Bounded) (t : Task σ) {before sites : List σ}
    (hbefore : before <+: sites) : Work.Bounded (∅, (Work.run t before (a.begin t sites)).1) := by
  have hbegin : Work.Bounded (∅, a.begin t sites) := kept_bounded.begins a _ ha
  have hmoves := Work.moves_run (t := t) before (fun s hs => hbefore.subset hs) (a.begin t sites)
  exact hmoves.bounded hbegin

/-- Where callers pass handles of the scene only, every handle that is kept
is one of the scene: between two requests, at every site of a method, and
in the result. No walk, copy or search, and no further request, ever looks
behind a handle that is not. -/
theorem handles_in_range (ha : a.Lawful) :
    a.Bounded ∧
      (∀ o, (∀ h ∈ a.finish.rootsOf o, h < a.scene.size) ∧
        ∀ h ∈ a.finish.elementsOf o, h < a.scene.size) ∧
      (∀ (t : Task σ) (before sites : List σ), before <+: sites →
        Work.Bounded (∅, (Work.run t before (a.begin t sites)).1)) ∧
      (∀ h < a.scene.size, Guarded.flatten a.scene h = some (a.scene.flatten h) ∧
        (∀ id, Guarded.find a.scene h id = some (a.scene.find? h id)) ∧
        (∀ id, Guarded.copyWithId a.scene h id = some (a.scene.copyWithId h id)) ∧
        Guarded.copy a.scene h = some (a.scene.copy h)) ∧
      ∀ r : Request σ, r.Own a → Guarded.serve a r = some (a.serve r) := by
  have hbounded := ha.bounded
  have hscene := hbounded.scene
  refine ⟨hbounded, ?_, ?_, ?_, ?_⟩
  · intro o
    refine ⟨fun h hh => hbounded.rootsOf_finish hh, fun h hh => ?_⟩
    rw [elementsOf_finish] at hh
    exact lt_of_mem_elementHandles hh
  · intro t before sites hbefore
    exact hbounded.run t hbefore
  · intro h hh
    exact ⟨Guarded.flatten_eq hscene hh, Guarded.find_eq hscene hh,
      Guarded.copyWithId_eq hscene hh, Guarded.copy_eq hscene hh⟩
  · intro r hr
    exact Guarded.serve_eq hbounded hr

theorem lawful_labelledBox : labelledBox.Lawful := by
  refine .serve (.serve (.serve (.serve (.create (show create {} = .ok _ from rfl))
    (.prepare (.create 1 "android.widget.LinearLayout" (.group []))) ?_)
    (.prepare (.create 2 "android.widget.TextView" (.text ∅))) ?_)
    (.prepare (.addChild 0 1)) ?_)
    (.prepare (.registerLayout 100 (.view 0))) ?_
  · exact nofun
  · exact nofun
  · show ∀ h ∈ [0, 1], h < 2
    decide
  · exact nofun

/-- The box is searched from its handle, and not from one that is yet to
come. When it is shown, the local denotes the copy. -/
theorem handles_in_range_labelledBox :
    labelledBox.Lawful ∧
      Guarded.find labelledBox.scene 0 2 = some (some 1) ∧
      Guarded.find labelledBox.scene 2 2 = none ∧
      (Work.run (.straightLine [Toolkit.showLayout]) [0]
        (labelledBox.begin (.straightLine [Toolkit.showLayout]) [0])).1.bound (some "view") = [2] ∧
      Work.Bounded (∅, (Work.run (.straightLine [Toolkit.showLayout]) [0]
        (labelledBox.begin (.straightLine [Toolkit.showLayout]) [0])).1) := by
  have hrange := handles_in_range lawful_labelledBox
  refine ⟨lawful_labelledBox, ?_, rfl, rfl, ?_⟩
  · rw [(hrange.2.2.2.1 0 (by decide)).2.1 2]
    rfl
  · exact hrange.2.2.1 (.straightLine [Toolkit.showLayout]) [0] [0] List.prefix_rfl

end Assembler

end UiRecovery
