import UiRecovery.Proofs.Merging

/-!
# Visits

A history of assembly calls, taken apart into the sites that it comes by.
A `Visit` is a site and the state in which work at it begins, and
`Assembler.visits` lists the visits of a history in their order, those of
methods that fail and of sites that are come by many times included.

`Passes` says that such a list makes up the way from one assembler to
another, and `Spans` what follows: nothing is lost from one visit to the
next, and nothing is added in between. So a question about a whole
history becomes one about a single visit, and that is the subject of
`Places`. The main statement, `one_widget_per_place`, is what comes out of
it for the table of places.
-/

namespace UiRecovery

/-- A site at which work is about to be done. -/
structure Visit (σ : Type) where
  task : Task σ
  work : Work σ
  site : σ

namespace Visit

variable {σ : Type} [DecidableEq σ]

/-- The state that the visit leaves. -/
def next (v : Visit σ) : Work σ := (v.work.step v.task v.site).1

theorem moves (v : Visit σ) : Work.Moves v.task [v.site] (∅, v.work) (∅, v.next) :=
  Work.moves_step v.work List.mem_cons_self

/-- The visit adds a widget to the scene. -/
def Adds (v : Visit σ) (h : Nat) : Prop := v.work.scene.size ≤ h ∧ h < v.next.scene.size

/-- The visit adds a widget to the scene, for which a place then stands. -/
def Makes (v : Visit σ) (key : MergeKey σ) (h : Nat) : Prop :=
  v.Adds h ∧ v.next.merged.get? key = some h

end Visit

/-! ## The visits of a history -/

def Work.visits {σ : Type} [DecidableEq σ] (t : Task σ) : List σ → Work σ → List (Visit σ)
  | [], _ => []
  | s :: rest, w =>
    ⟨t, w, s⟩ ::
      match w.step t s with
      | (w, none) => visits t rest w
      | (_, some _) => []

namespace Work

variable {σ : Type} [DecidableEq σ] {t : Task σ}

/-- A visit begins where the visits before it have ended, and none of them
fails. -/
theorem visits_split {v : Visit σ} {after : List (Visit σ)} :
    ∀ {before : List (Visit σ)} {sites : List σ} {w : Work σ},
      visits t sites w = before ++ v :: after →
        v.task = t ∧ visits t (before.map Visit.site) w = before ∧
          run t (before.map Visit.site) w = (v.work, none) ∧
          ∃ rest, sites = before.map Visit.site ++ v.site :: rest
  | _, [], _, h => by simp [visits] at h
  | [], s :: rest, w, h => by
      rw [visits, List.nil_append, List.cons.injEq] at h
      obtain ⟨rfl, -⟩ := h
      exact ⟨rfl, rfl, rfl, rest, rfl⟩
  | b :: before, s :: rest, w, h => by
      rw [visits, List.cons_append, List.cons.injEq] at h
      obtain ⟨rfl, hrest⟩ := h
      cases hstep : w.step t s with
      | mk w' failure =>
          rw [hstep] at hrest
          cases failure with
          | some e => simp at hrest
          | none =>
              obtain ⟨htask, hvisits, hrun, later, hsites⟩ := visits_split hrest
              refine ⟨htask, ?_, ?_, later, congrArg (s :: ·) hsites⟩
              · rw [List.map_cons, visits, hstep]
                exact congrArg _ hvisits
              · rw [List.map_cons, run, hstep]
                exact hrun

theorem moves_of_mem_visits {sites : List σ} {w : Work σ} {v : Visit σ}
    (hv : v ∈ visits t sites w) : Moves t sites (∅, w) (∅, v.work) := by
  obtain ⟨before, after, hvisits⟩ := List.append_of_mem hv
  obtain ⟨-, -, hrun, rest, hsites⟩ := visits_split hvisits
  have hsub : ∀ s ∈ before.map Visit.site, s ∈ sites := by
    intro s hs
    rw [hsites]
    exact List.mem_append_left _ hs
  have hmoves := moves_run (t := t) _ hsub w
  rwa [hrun] at hmoves

/-- A run that does not fail visits all sites. -/
theorem map_site_visits : ∀ {sites : List σ} {w : Work σ}, (run t sites w).2 = none →
    (visits t sites w).map Visit.site = sites
  | [], _, _ => rfl
  | s :: rest, w, hrun => by
      rw [run] at hrun
      rw [visits]
      cases hstep : w.step t s with
      | mk w' failure =>
          rw [hstep] at hrun
          cases failure with
          | some e => cases hrun
          | none => exact congrArg (s :: ·) (map_site_visits hrun)

end Work

/-- What the rest of a method leaves of the interface, whether it fails or
not. -/
def Work.left {σ : Type} [DecidableEq σ] (t : Task σ) (rest : List σ) (w : Work σ) :
    Assembler σ :=
  let r := run t rest w
  match r.2 with
  | some _ => r.1.toAssembler
  | none => r.1.toAssembler.addDialogs t.origin r.1.drafts

namespace Assembler

variable {σ : Type} [DecidableEq σ]

def unitVisits (q : Query σ) (o : Oracle σ) : List (MethodUnit σ) → UnitsRun σ → List (Visit σ)
  | [], _ => []
  | u :: us, r =>
    let t : Task σ := ⟨q, o, u.origin⟩
    Work.visits t u.sites (r.assembler.begin t u.sites) ++ unitVisits q o us (assembleNext q o r u)

def callVisits (a : Assembler σ) : AssemblyCall σ → List (Visit σ)
  | .method t sites => Work.visits t sites (a.begin t sites)
  | .units q o units => unitVisits q o units { assembler := a, stats := [], log := [] }

def visits (a : Assembler σ) : List (AssemblyCall σ) → List (Visit σ)
  | [] => []
  | c :: calls => a.callVisits c ++ (a.assembled c).visits calls

/-! ## Where visits begin -/

theorem Kept.of_mem_visits {P : Assembler σ → Prop} {I : Set Nat × Work σ → Prop}
    (h : Kept P I) {a : Assembler σ} (ha : P a) {t : Task σ} {sites : List σ} {v : Visit σ}
    (hv : v ∈ Work.visits t sites (a.begin t sites)) : I (∅, v.work) :=
  h.of_moves (Work.moves_of_mem_visits hv) (h.begins a _ ha)

/-- `b` comes after `a`: it has all that `a` has, and a table that is as
good. -/
structure Precedes (a b : Assembler σ) : Prop where
  grows : a.Grows b
  merges : ∀ n, a.Merges n → b.Merges n

theorem Precedes.refl (a : Assembler σ) : Precedes a a := ⟨.refl a, fun _ ha => ha⟩

theorem Precedes.trans {a b c : Assembler σ} (h : Precedes a b) (h' : Precedes b c) :
    Precedes a c :=
  ⟨h.grows.trans h'.grows, fun n ha => h'.merges n (h.merges n ha)⟩

/-- The visits lead from `a` to `b`, one after the other. -/
structure Spans (a b : Assembler σ) (vs : List (Visit σ)) : Prop where
  ends : a.Precedes b
  starts : ∀ v ∈ vs, a.Precedes v.work.toAssembler
  stops : ∀ v ∈ vs, v.next.toAssembler.Precedes b
  ordered : vs.Pairwise fun v v' => v.next.toAssembler.Precedes v'.work.toAssembler
  covers : ∀ h, a.scene.size ≤ h → h < b.scene.size → ∃ v ∈ vs, v.Adds h

namespace Spans

variable {a b c : Assembler σ} {vs vs' : List (Visit σ)}

theorem nil (hends : a.Precedes b) (hsize : b.scene.size = a.scene.size) : Spans a b [] := by
  refine ⟨hends, by simp, by simp, List.Pairwise.nil, ?_⟩
  intro h hlow hhigh
  omega

theorem append (h : Spans a b vs) (h' : Spans b c vs') : Spans a c (vs ++ vs') := by
  refine ⟨h.ends.trans h'.ends, ?_, ?_, ?_, ?_⟩
  · intro v hv
    rcases List.mem_append.mp hv with hv | hv
    · exact h.starts v hv
    · exact h.ends.trans (h'.starts v hv)
  · intro v hv
    rcases List.mem_append.mp hv with hv | hv
    · exact (h.stops v hv).trans h'.ends
    · exact h'.stops v hv
  · refine List.pairwise_append.mpr ⟨h.ordered, h'.ordered, ?_⟩
    intro v hv v' hv'
    exact (h.stops v hv).trans (h'.starts v' hv')
  · intro x hlow hhigh
    by_cases hx : x < b.scene.size
    · obtain ⟨v, hv, hadds⟩ := h.covers x hlow hx
      exact ⟨v, List.mem_append_left _ hv, hadds⟩
    · obtain ⟨v, hv, hadds⟩ := h'.covers x (Nat.le_of_not_lt hx) hhigh
      exact ⟨v, List.mem_append_right _ hv, hadds⟩

end Spans

theorem precedes_of_moves {t : Task σ} {sites : List σ} {x y : Set Nat × Work σ}
    (hmoves : Work.Moves t sites x y) : x.2.toAssembler.Precedes y.2.toAssembler := by
  refine ⟨hmoves.grows, ?_⟩
  intro n hx
  induction hmoves with
  | refl => exact hx
  | tail _ hmove ih => exact hmove.merges ih

theorem Spans.single (v : Visit σ) : Spans v.work.toAssembler v.next.toAssembler [v] := by
  refine ⟨precedes_of_moves v.moves, ?_, ?_, List.pairwise_singleton _ _, ?_⟩
  · intro v' hv'
    rw [List.mem_singleton.mp hv']
    exact .refl _
  · intro v' hv'
    rw [List.mem_singleton.mp hv']
    exact .refl _
  · intro h hlow hhigh
    exact ⟨v, List.mem_cons_self, hlow, hhigh⟩

/-! ## Histories -/

/-- The visits make up the way from `a` to `b`, and what comes between them
leaves the widgets and the table of places alone. -/
inductive Passes : Assembler σ → Assembler σ → List (Visit σ) → Prop
  | idle {a b : Assembler σ} (hgrows : a.Grows b) (hsettings : b.settings = a.settings)
      (hscene : b.scene = a.scene) (hmerged : b.merged = a.merged) : Passes a b []
  | visit (v : Visit σ) : Passes v.work.toAssembler v.next.toAssembler [v]
  | append {a b c : Assembler σ} {vs vs' : List (Visit σ)} (h : Passes a b vs)
      (h' : Passes b c vs') : Passes a c (vs ++ vs')

namespace Passes

variable {a b c : Assembler σ} {vs : List (Visit σ)}

theorem nil (a : Assembler σ) : Passes a a [] := .idle (.refl a) rfl rfl rfl

theorem extend (h : Passes a b vs) (hgrows : b.Grows c) (hsettings : c.settings = b.settings)
    (hscene : c.scene = b.scene) (hmerged : c.merged = b.merged) : Passes a c vs := by
  have happend := h.append (.idle hgrows hsettings hscene hmerged)
  rwa [List.append_nil] at happend

theorem spans (h : Passes a b vs) : Spans a b vs := by
  induction h with
  | idle hgrows _ hscene hmerged =>
      have hsize := congrArg Scene.size hscene
      refine .nil ⟨hgrows, ?_⟩ hsize
      intro n ha
      exact ha.keep hsize.ge (fun h _ => by rw [hscene]) hmerged
  | visit v => exact .single v
  | append _ _ ih ih' => exact ih.append ih'

end Passes

theorem passes_run (t : Task σ) : ∀ (sites : List σ) (w : Work σ),
    Passes w.toAssembler (Work.run t sites w).1.toAssembler (Work.visits t sites w)
  | [], w => .nil w.toAssembler
  | s :: rest, w => by
      have hfirst := Passes.visit ⟨t, w, s⟩
      unfold Visit.next at hfirst
      rw [Work.run, Work.visits]
      cases hstep : w.step t s with
      | mk w' failure =>
          rw [hstep] at hfirst
          cases failure with
          | none => exact hfirst.append (passes_run t rest w')
          | some e => exact hfirst

/-- The dialogs that a method leaves come after its visits. -/
theorem passes_left (t : Task σ) (rest : List σ) (w : Work σ) :
    Passes w.toAssembler (w.left t rest) (Work.visits t rest w) := by
  have hrun := passes_run t rest w
  unfold Work.left
  dsimp only
  split
  · exact hrun
  · refine hrun.extend ?_ rfl rfl rfl
    exact { Grows.refl _ with dialogs := List.prefix_append .. }

theorem passes_method (a : Assembler σ) (t : Task σ) (sites : List σ) :
    Passes a (a.assembleMethod t sites).assembler (Work.visits t sites (a.begin t sites)) := by
  rw [assembler_assembleMethod]
  exact passes_left t sites (a.begin t sites)

theorem passes_next (q : Query σ) (o : Oracle σ) (r : UnitsRun σ) (u : MethodUnit σ) :
    Passes r.assembler (assembleNext q o r u).assembler
      (Work.visits ⟨q, o, u.origin⟩ u.sites (r.assembler.begin ⟨q, o, u.origin⟩ u.sites)) := by
  have hmethod := r.assembler.passes_method ⟨q, o, u.origin⟩ u.sites
  unfold assembleNext
  dsimp only
  split
  · exact hmethod
  · refine hmethod.extend ?_ rfl rfl rfl
    exact { Grows.refl _ with skipped := List.prefix_append .. }

theorem passes_units (q : Query σ) (o : Oracle σ) :
    ∀ (us : List (MethodUnit σ)) (r : UnitsRun σ),
      Passes r.assembler (us.foldl (assembleNext q o) r).assembler (unitVisits q o us r)
  | [], r => .nil r.assembler
  | u :: us, r => (passes_next q o r u).append (passes_units q o us (assembleNext q o r u))

theorem passes_call (a : Assembler σ) (c : AssemblyCall σ) :
    Passes a (a.assembled c) (a.callVisits c) := by
  cases c with
  | method t sites => exact a.passes_method t sites
  | units q o units => exact passes_units q o units { assembler := a, stats := [], log := [] }

theorem passes_calls : ∀ (calls : List (AssemblyCall σ)) (a : Assembler σ),
    Passes a (calls.foldl assembled a) (a.visits calls)
  | [], a => .nil a
  | c :: calls, a => (a.passes_call c).append (passes_calls calls (a.assembled c))

theorem spans_calls (calls : List (AssemblyCall σ)) (a : Assembler σ) :
    Spans a (calls.foldl assembled a) (a.visits calls) :=
  (passes_calls calls a).spans

end Assembler

/-! ## What a visit adds -/

namespace Visit

variable {σ : Type} [DecidableEq σ]

/-- Each widget that a visit adds is that of a place of its site that had
none, or the site copies a layout or puts up a fragment, and the table
stays as it is. -/
theorem makes_or_unplaced (v : Visit σ) :
    (∀ h, v.Adds h →
      ∃ key, key.site = v.site ∧ v.work.merged.get? key = none ∧ v.Makes key h) ∨
    (∃ action, v.task.query.action v.site = .ok action ∧ action.Unplaced) ∧
      v.next.merged = v.work.merged := by
  obtain ⟨attribution, hnote⟩ := v.work.noteCall_eq v.task v.site
  have hscene : (v.work.noteCall v.task v.site).scene = v.work.scene := by rw [hnote]
  have hmerged : (v.work.noteCall v.task v.site).merged = v.work.merged := by rw [hnote]
  unfold Makes Adds next
  rw [Work.step_eq]
  cases haction : v.task.query.action v.site with
  | error e =>
      refine Or.inl ?_
      intro h ⟨hlow, hhigh⟩
      rw [hscene] at hhigh
      omega
  | ok action =>
      dsimp only
      rcases (v.work.noteCall v.task v.site).places_or_unplaced v.site action with
        hplaces | ⟨hunplaced, hsame⟩
      · refine Or.inl ?_
        intro h ⟨hlow, hhigh⟩
        rw [← hscene] at hlow
        obtain ⟨key, hsite, hnone, hsome⟩ := hplaces.placed h hlow hhigh
        rw [hmerged] at hnone
        rw [hscene] at hlow
        exact ⟨key, hsite, hnone, ⟨hlow, hhigh⟩, hsome⟩
      · refine Or.inr ⟨⟨action, rfl, hunplaced⟩, ?_⟩
        rw [hsame, hmerged]

/-- A place that has got its widget gets no other later on. -/
theorem Makes.not_makes {v v' : Visit σ} {key : MergeKey σ} {h h' : Nat} (hmakes : v.Makes key h)
    (hlater : v.next.toAssembler.Precedes v'.work.toAssembler)
    (hvisit : v'.work.toAssembler.Precedes v'.next.toAssembler) : ¬v'.Makes key h' := by
  rintro ⟨⟨hlow, -⟩, hget'⟩
  obtain ⟨⟨-, hhigh⟩, hget⟩ := hmakes
  have hkept := hvisit.grows.merged key h (hlater.grows.merged key h hget)
  rw [hkept] at hget'
  obtain rfl := Option.some.inj hget'
  have hsize := hlater.grows.scene.size_le
  omega

end Visit

namespace Assembler

variable {σ : Type} [DecidableEq σ]

/-- A place stands for one widget. After any calls on a prepared assembler
the table of places is injective, has no template in it, and an id that
was looked up leads to a widget with that id; and so it is wherever a
method is at. An entry stays for good. Every widget that the calls add is
added at some visit of a site, for a place of the site that had none,
unless it is copied from a layout or is a fragment. No two visits add a
widget for the same place. -/
theorem one_widget_per_place {a : Assembler σ} (ha : a.Prepared) (calls : List (AssemblyCall σ)) :
    let b := calls.foldl assembled a
    b.Merges a.scene.size ∧
      (∀ (more : List (AssemblyCall σ)) key h, b.merged.get? key = some h →
        (more.foldl assembled b).merged.get? key = some h) ∧
      (∀ v ∈ a.visits calls, v.work.toAssembler.Merges a.scene.size ∧
        (∀ key h, v.work.merged.get? key = some h →
          v.next.merged.get? key = some h ∧ b.merged.get? key = some h) ∧
        ((∀ h, v.Adds h →
            ∃ key, key.site = v.site ∧ v.work.merged.get? key = none ∧ v.Makes key h) ∨
          (∃ action, v.task.query.action v.site = .ok action ∧ action.Unplaced) ∧
            v.next.merged = v.work.merged)) ∧
      (∀ h, a.scene.size ≤ h → h < b.scene.size → ∃ v ∈ a.visits calls, v.Adds h) ∧
      (a.visits calls).Pairwise fun v v' => ∀ key h h', v.Makes key h → ¬v'.Makes key h' := by
  have hspans := spans_calls calls a
  have hvisit : ∀ v : Visit σ, v.work.toAssembler.Precedes v.next.toAssembler :=
    fun v => (Spans.single v).ends
  refine ⟨hspans.ends.merges _ ha.merges, ?_, ?_, hspans.covers, ?_⟩
  · intro more key h hget
    exact (spans_calls more _).ends.grows.merged key h hget
  · intro v hv
    refine ⟨(hspans.starts v hv).merges _ ha.merges, ?_, v.makes_or_unplaced⟩
    intro key h hget
    have hnext := (hvisit v).grows.merged key h hget
    exact ⟨hnext, (hspans.stops v hv).grows.merged key h hnext⟩
  · refine hspans.ordered.imp ?_
    intro v v' hlater key h h' hmakes
    exact hmakes.not_makes hlater (hvisit v')

/-- The list of a screen is asked for three times, for two components. -/
theorem one_widget_per_place_labelledBox :
    let t : Task Nat := .straightLine ["android.widget.ListView getListView()"]
    let calls := [AssemblyCall.method t [0],
      AssemblyCall.method { t with origin := .activity "Other" "" } [0, 0]]
    let b := calls.foldl assembled labelledBox
    labelledBox.Prepared ∧ (labelledBox.visits calls).length = 3 ∧ b.scene.size = 3 ∧
      b.merged.get? (.allocation 0) = some 2 ∧ b.Merges 2 ∧
      (∃ v ∈ labelledBox.visits calls, v.Adds 2) ∧
      (labelledBox.visits calls).Pairwise fun v v' =>
        ∀ key h h', v.Makes key h → ¬v'.Makes key h' := by
  intro t calls b
  obtain ⟨hmerges, -, -, hcovers, honce⟩ := one_widget_per_place prepared_labelledBox calls
  have hsize : b.scene.size = 3 := by decide +kernel
  refine ⟨prepared_labelledBox, by decide +kernel, hsize, by decide +kernel, hmerges, ?_, honce⟩
  refine hcovers 2 (by decide +kernel) ?_
  show 2 < b.scene.size
  omega

end Assembler

end UiRecovery
