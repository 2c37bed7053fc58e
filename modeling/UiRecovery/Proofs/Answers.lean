import UiRecovery.Assembly.Reconstruction
import UiRecovery.Proofs.Confinement
import UiRecovery.Proofs.Visits

/-!
# Answers without a value

An oracle may say that it does not know a value, or that the value is one
of none. Neither is evidence, and neither should be told from the other.
`Oracle.doubted` gives the first answer in place of the second, and the
question is what a recovery makes of the difference.

All values but one are asked for through `askInts` and `askLabels`, which
see the list of values alone, so no action but an inflation tells the two
answers apart (`perform_doubted`). The flag of an inflation is read on its
own: a set without values has none that is true, and is taken for false.
Copies are then withheld from a container that would have got them had
nothing been known (`Work.Withholds`). That is the only difference, and it
always is one (`step_doubted_iff`): attaching is undone by nothing, so a
copy that is missing somewhere shows in `Work.load`.
-/

namespace UiRecovery

/-- The same answer, if it has a value. -/
def Resolution.doubted (r : Resolution) : Resolution :=
  if r = .known ∅ then .unknown else r

/-- The oracle that does not know what the given one has no value for. -/
def Oracle.doubted {σ : Type} (o : Oracle σ) : Oracle σ := fun ref s => (o ref s).doubted

def Task.doubted {σ : Type} (t : Task σ) : Task σ := { t with oracle := t.oracle.doubted }

@[simp]
theorem Task.query_doubted {σ : Type} (t : Task σ) : t.doubted.query = t.query := rfl

namespace Resolution

theorem values_doubted (r : Resolution) : r.doubted.values = r.values := by
  unfold doubted
  split
  · rename_i h
    rw [h]
    rfl
  · rfl

theorem ints_doubted (r : Resolution) : r.doubted.ints = r.ints := by
  rw [ints, values_doubted, ints]

theorem labels_doubted (r : Resolution) : r.doubted.labels = r.labels := by
  rw [labels, values_doubted, labels]

end Resolution

/-- A container without this child. -/
def Scene.Lacks (s : Scene) (parent child : Nat) : Prop :=
  s.isContainer parent = true ∧ child ∉ s.children parent

instance (s : Scene) (parent child : Nat) : Decidable (s.Lacks parent child) :=
  inferInstanceAs (Decidable (_ ∧ _))

namespace Work

variable {σ : Type}

/-! ## Values that are asked for -/

theorem askInts_doubted (w : Work σ) (t : Task σ) (ref : ValueRef) (s : σ) :
    w.askInts t.doubted ref s = w.askInts t ref s := by
  have hints : (t.doubted.oracle ref s).ints = (t.oracle ref s).ints := Resolution.ints_doubted _
  unfold askInts
  rw [hints]
  rfl

theorem askLabels_doubted (w : Work σ) (t : Task σ) (ref : ValueRef) (s : σ) :
    w.askLabels t.doubted ref s = w.askLabels t ref s := by
  have hlabels : (t.doubted.oracle ref s).labels = (t.oracle ref s).labels :=
    Resolution.labels_doubted _
  unfold askLabels
  rw [hlabels]
  rfl

theorem askIntsAt_doubted (w : Work σ) (t : Task σ) (position : Option Nat) (s : σ) :
    w.askIntsAt t.doubted position s = w.askIntsAt t position s := by
  cases position with
  | none => rfl
  | some i => exact w.askInts_doubted t (.arg i) s

theorem askLabelsAt_doubted (w : Work σ) (t : Task σ) (position : Option Nat) (s : σ) :
    w.askLabelsAt t.doubted position s = w.askLabelsAt t position s := by
  cases position with
  | none => rfl
  | some i => exact w.askLabels_doubted t (.arg i) s

/-- A flag that has no value is false, and one of which nothing is known is
not. -/
theorem attaches_of_empty {t : Task σ} {s : σ} {params : List String} {j : Nat}
    (hj : params.idxOf? Toolkit.booleanParam = some j) (hempty : t.oracle (.arg j) s = .known ∅) :
    attaches t.doubted s params = true ∧ attaches t s params = false := by
  have hunknown : t.doubted.oracle (.arg j) s = .unknown := if_pos hempty
  unfold attaches
  rw [hj]
  dsimp only
  rw [hunknown, hempty]
  exact ⟨rfl, rfl⟩

theorem attaches_doubted {t : Task σ} {s : σ} {params : List String}
    (hvalue : ∀ j, params.idxOf? Toolkit.booleanParam = some j → t.oracle (.arg j) s ≠ .known ∅) :
    attaches t.doubted s params = attaches t s params := by
  unfold attaches
  cases hj : params.idxOf? Toolkit.booleanParam with
  | none => rfl
  | some j =>
      have hsame : t.doubted.oracle (.arg j) s = t.oracle (.arg j) s := if_neg (hvalue j hj)
      dsimp only
      rw [hsame]

/-! ## Attaching is undone by nothing -/

/-- How much has been attached to a widget, and refused anywhere. -/
def load (w : Work σ) (h : Nat) : Nat := (w.scene.children h).length + w.selfCycles

theorem load_bindLocal (w : Work σ) (name : Option String) (hs : List Nat) :
    (w.bindLocal name hs).load = w.load := by
  cases name <;> rfl

/-- Steps that add to the load, or change nothing. -/
def AddsLoadOrKeeps {α : Type} (step : Work σ → α → Work σ) : Prop :=
  ∀ w a, w.load ≤ (step w a).load ∧ ((step w a).load ≤ w.load → step w a = w)

theorem AddsLoadOrKeeps.foldl {α : Type} {step : Work σ → α → Work σ}
    (hstep : AddsLoadOrKeeps step) :
    ∀ (as : List α) (w : Work σ), w.load ≤ (as.foldl step w).load ∧
      ((as.foldl step w).load ≤ w.load → ∀ a ∈ as, step w a = w)
  | [], w => ⟨le_rfl, fun _ a ha => absurd ha List.not_mem_nil⟩
  | a :: as, w => by
      obtain ⟨hfirst, hsame⟩ := hstep w a
      obtain ⟨hrest, hsames⟩ := hstep.foldl as (step w a)
      refine ⟨hfirst.trans hrest, fun hle => ?_⟩
      have hw : step w a = w := hsame (hrest.trans hle)
      rw [List.foldl_cons, hw] at hle
      rw [hw] at hsames
      exact List.forall_mem_cons.mpr ⟨hw, hsames hle⟩

theorem foldl_of_forall_eq {α : Type} {step : Work σ → α → Work σ} {w : Work σ} :
    ∀ {as : List α}, (∀ a ∈ as, step w a = w) → as.foldl step w = w
  | [], _ => rfl
  | a :: as, h => by
      rw [List.foldl_cons, h a List.mem_cons_self]
      exact foldl_of_forall_eq fun b hb => h b (List.mem_cons_of_mem a hb)

theorem load_modifyWidget_appendChildren {w : Work σ} {p : Nat} {e : Widget}
    (hget : w.scene.get? p = some e) (he : e.isContainer = true) (c h : Nat) :
    (w.modifyWidget p (·.appendChildren [c])).load h = w.load h + if p = h then 1 else 0 := by
  rw [modifyWidget_eq]
  unfold load
  dsimp only
  by_cases heq : p = h
  · subst heq
    have hnew : (w.scene.modify p (·.appendChildren [c])).get? p = some (e.appendChildren [c]) := by
      rw [Scene.get?_modify, if_pos rfl, hget, Option.map_some]
    rw [Scene.children_of_get? hnew, Scene.children_of_get? hget, e.children_appendChildren he,
      List.length_append, if_pos rfl]
    exact Nat.add_right_comm _ _ _
  · have hold : (w.scene.modify p (·.appendChildren [c])).get? h = w.scene.get? h := by
      rw [Scene.get?_modify, if_neg heq]
    rw [Scene.children_congr hold, if_neg heq, Nat.add_zero]

/-- A child is attached to a container that lacks it, or the attempt is
counted. -/
theorem load_attach (w : Work σ) (p c : Nat) :
    ¬w.scene.Lacks p c ∧ w.attach p c = w ∨
      w.scene.Lacks p c ∧ w.load ≤ (w.attach p c).load ∧ w.load p < (w.attach p c).load p := by
  rw [attach_eq]
  by_cases hchild : c ∈ w.scene.children p
  · rw [if_pos (List.contains_iff_mem.mpr hchild)]
    exact Or.inl ⟨fun h => h.2 hchild, rfl⟩
  rw [if_neg (mt List.contains_iff_mem.mp hchild)]
  cases hcontainer : w.scene.isContainer p with
  | false =>
      rw [Scene.addChild_of_leaf hcontainer]
      exact Or.inl ⟨fun h => Bool.noConfusion (hcontainer.symm.trans h.1), rfl⟩
  | true =>
      obtain ⟨e, hget, he⟩ := Scene.exists_of_isContainer hcontainer
      refine Or.inr ⟨⟨hcontainer, hchild⟩, ?_⟩
      rw [Scene.addChild_of_container hget he]
      by_cases hself : p = c
      · rw [if_pos hself]
        exact ⟨fun _ => Nat.le_succ _, Nat.lt_succ_self _⟩
      · rw [if_neg hself]
        have hload := load_modifyWidget_appendChildren hget he c
        exact ⟨fun h => (Nat.le_add_right _ _).trans_eq (hload h).symm,
          (Nat.lt_succ_self _).trans_eq ((hload p).trans (by rw [if_pos rfl])).symm⟩

theorem addsLoadOrKeeps_attach (p : Nat) :
    AddsLoadOrKeeps (fun (w : Work σ) c => w.attach p c) := by
  intro w c
  rcases w.load_attach p c with ⟨-, hsame⟩ | ⟨-, hle, hlt⟩
  · exact ⟨(congrArg load hsame).ge, fun _ => hsame⟩
  · exact ⟨hle, fun hback => absurd (hback p) (Nat.not_le_of_lt hlt)⟩

theorem attach_eq_self_iff {w : Work σ} {p c : Nat} :
    w.attach p c = w ↔ ¬w.scene.Lacks p c := by
  rcases w.load_attach p c with ⟨hhas, hsame⟩ | ⟨hlacks, -, hlt⟩
  · exact iff_of_true hsame hhas
  · exact iff_of_false (fun h => absurd hlt (by rw [h]; exact lt_irrefl _)) (not_not.mpr hlacks)

theorem addsLoadOrKeeps_attachEach (cs : List Nat) :
    AddsLoadOrKeeps (fun (w : Work σ) p => cs.foldl (fun w c => w.attach p c) w) := by
  intro w p
  obtain ⟨hle, hsame⟩ := (addsLoadOrKeeps_attach p).foldl cs w
  exact ⟨hle, fun hback => foldl_of_forall_eq (hsame hback)⟩

/-- What was attached anywhere shows, whatever local is bound afterwards. -/
theorem bindLocal_attachAll_eq_iff {w : Work σ} {ps cs : List Nat} {name : Option String}
    {hs : List Nat} :
    (w.attachAll ps cs).bindLocal name hs = w.bindLocal name hs ↔
      ∀ p ∈ ps, ∀ c ∈ cs, ¬w.scene.Lacks p c := by
  constructor
  · intro hsame p hp c hc
    have hload := congrArg load hsame
    rw [load_bindLocal, load_bindLocal, attachAll_eq] at hload
    have hparent := ((addsLoadOrKeeps_attachEach cs).foldl ps w).2 hload.le p hp
    have hchild := ((addsLoadOrKeeps_attach p).foldl cs w).2 (congrArg load hparent).le c hc
    exact attach_eq_self_iff.mp hchild
  · intro h
    have hsame : w.attachAll ps cs = w := by
      rw [attachAll_eq]
      exact foldl_of_forall_eq fun p hp =>
        foldl_of_forall_eq fun c hc => attach_eq_self_iff.mpr (h p hp c hc)
    rw [hsame]

/-! ## Inflations -/

/-- What an inflation makes before any of it is attached. -/
def copied (t : Task σ) (s : σ) (i : Nat) (w : Work σ) : List Nat × Work σ :=
  let (ids, w) := w.askInts t (.arg i) s
  collectAll (materialize t.origin) ids w

/-- An inflation makes copies for a container that lacks them, and keeps
them from it because its flag has no value. -/
def Withholds (t : Task σ) (s : σ) (signature : String) (w : Work σ) : Prop :=
  let params := Signature.callParams signature
  ∃ i ∈ params.idxOf? Toolkit.intParam, ∃ j ∈ params.idxOf? Toolkit.booleanParam,
    t.oracle (.arg j) s = .known ∅ ∧
      ∃ p ∈ w.containerArg t s params, ∃ c ∈ (w.copied t s i).1,
        (w.copied t s i).2.scene.Lacks p c

instance (t : Task σ) (s : σ) (signature : String) (w : Work σ) :
    Decidable (w.Withholds t s signature) :=
  inferInstanceAs (Decidable (∃ i ∈ _, ∃ j ∈ _, _ ∧ ∃ p ∈ _, ∃ c ∈ _, _))

theorem inflate_eq_copied {t : Task σ} {s : σ} {signature : String} (w : Work σ) {i : Nat}
    (hi : (Signature.callParams signature).idxOf? Toolkit.intParam = some i) :
    w.inflate t s signature =
      (if attaches t s (Signature.callParams signature) then
        (w.copied t s i).2.attachAll (w.containerArg t s (Signature.callParams signature))
          (w.copied t s i).1
      else (w.copied t s i).2).bindLocal (t.query.definedLocal s) (w.copied t s i).1 := by
  rw [inflate_eq]
  dsimp only
  rw [hi]
  rfl

theorem copied_doubted (t : Task σ) (s : σ) (i : Nat) (w : Work σ) :
    w.copied t.doubted s i = w.copied t s i := by
  unfold copied
  rw [askInts_doubted]
  rfl

/-- An inflation tells the two answers apart exactly if it withholds
something. -/
theorem inflate_doubted_iff (t : Task σ) (s : σ) (signature : String) (w : Work σ) :
    w.inflate t.doubted s signature = w.inflate t s signature ↔ ¬w.Withholds t s signature := by
  cases hi : (Signature.callParams signature).idxOf? Toolkit.intParam with
  | none =>
      refine iff_of_true ?_ fun ⟨i, hsome, _⟩ => ?_
      · rw [inflate_eq, inflate_eq]
        dsimp only
        rw [hi]
      · rw [hi] at hsome
        cases hsome
  | some i =>
      rw [inflate_eq_copied w hi, inflate_eq_copied w hi, copied_doubted]
      by_cases hflag : ∃ j, (Signature.callParams signature).idxOf? Toolkit.booleanParam = some j ∧
          t.oracle (.arg j) s = .known ∅
      · obtain ⟨j, hj, hempty⟩ := hflag
        obtain ⟨hon, hoff⟩ := attaches_of_empty hj hempty
        rw [if_pos hon, hoff, if_neg Bool.false_ne_true]
        refine bindLocal_attachAll_eq_iff.trans ⟨?_, ?_⟩
        · rintro hhas ⟨i', hi', -, -, -, p, hp, c, hc, hlacks⟩
          obtain rfl : i = i' := Option.some.inj (hi.symm.trans hi')
          exact hhas p hp c hc hlacks
        · exact fun hnot p hp c hc hlacks => hnot ⟨i, hi, j, hj, hempty, p, hp, c, hc, hlacks⟩
      · refine iff_of_true ?_ fun ⟨_, _, j, hj, hempty, _⟩ => hflag ⟨j, hj, hempty⟩
        rw [attaches_doubted fun j hj hempty => hflag ⟨j, hj, hempty⟩]
        rfl

/-! ## All actions -/

section

variable (t : Task σ) (s : σ) (w : Work σ)

theorem fragment_doubted (signature : String) :
    w.fragment t.doubted s signature = w.fragment t s signature := by
  have hadd : addFragment t.doubted = addFragment t := rfl
  have hslots : slotContainers t.doubted = slotContainers t := rfl
  rw [fragment_eq, fragment_eq]
  simp only [askLabels_doubted, askLabelsAt_doubted, askIntsAt_doubted, hadd, hslots]

theorem dialogCall_doubted (signature : String) (draft : Nat) :
    w.dialogCall t.doubted s signature draft = w.dialogCall t s signature draft := by
  unfold dialogCall
  simp only [askLabels_doubted, Task.query_doubted]

theorem setterCall_doubted (signature : String) :
    w.setterCall t.doubted s signature = w.setterCall t s signature := by
  rw [setterCall_eq, setterCall_eq]
  simp only [askInts_doubted, askLabels_doubted]
  rfl

theorem call_doubted (signature : String) :
    w.call t.doubted s signature = w.call t s signature := by
  rw [call_eq, call_eq]
  simp only [dialogCall_doubted, setterCall_doubted, Task.query_doubted]

theorem showLayout_doubted : w.showLayout t.doubted s = w.showLayout t s := by
  rw [showLayout_eq, askInts_doubted]
  rfl

theorem inflateMenu_doubted : w.inflateMenu t.doubted s = w.inflateMenu t s := by
  unfold inflateMenu
  rw [askInts_doubted]
  rfl

variable [DecidableEq σ]

theorem lookup_doubted (call : σ) (className : String) :
    w.lookup t.doubted s call className = w.lookup t s call className := by
  rw [lookup_eq, askInts_doubted]
  rfl

/-- No other action tells the two answers apart. -/
theorem perform_doubted {a : Action σ} (ha : ∀ signature, a ≠ .inflate signature) :
    w.perform t.doubted s a = w.perform t s a := by
  cases a with
  | inflate signature => exact absurd rfl (ha signature)
  | lookup call className => exact lookup_doubted t s w call className
  | showLayout => exact showLayout_doubted t s w
  | inflateMenu => exact inflateMenu_doubted t s w
  | fragment signature => exact fragment_doubted t s w signature
  | call signature => exact call_doubted t s w signature
  | _ => rfl

end

end Work

/-! ## Runs -/

section

variable {σ : Type} [DecidableEq σ]

/-- The inflation at a site. -/
def Query.inflation? (q : Query σ) (s : σ) : Option String :=
  match q.action s with
  | .ok (.inflate signature) => some signature
  | _ => none

theorem Query.mem_inflation? {q : Query σ} {s : σ} {signature : String} :
    signature ∈ q.inflation? s ↔ q.action s = .ok (.inflate signature) := by
  unfold inflation?
  split
  · rename_i h
    rw [h, Option.mem_some_iff, Except.ok.injEq, Action.inflate.injEq]
  · rename_i h
    exact iff_of_false (Option.not_mem_none _) (h signature)

/-- The site is an inflation that withholds something. -/
def Visit.Withholds (v : Visit σ) : Prop :=
  ∃ signature ∈ v.task.query.inflation? v.site,
    (v.work.noteCall v.task v.site).Withholds v.task v.site signature

instance (v : Visit σ) : Decidable v.Withholds :=
  inferInstanceAs (Decidable (∃ signature ∈ _, _))

/-- A step tells the two answers apart exactly if it withholds something. -/
theorem Visit.step_doubted_iff (v : Visit σ) :
    v.work.step v.task.doubted v.site = v.work.step v.task v.site ↔ ¬v.Withholds := by
  obtain ⟨t, w, s⟩ := v
  have hnote : w.noteCall t.doubted s = w.noteCall t s := rfl
  have haction : t.doubted.query.action s = t.query.action s := rfl
  unfold Visit.Withholds
  simp only [Query.mem_inflation?]
  rw [Work.step_eq, Work.step_eq, hnote, haction]
  cases t.query.action s with
  | error e => exact iff_of_true rfl fun ⟨_, h, _⟩ => by cases h
  | ok a =>
      dsimp only
      rw [Prod.mk.injEq, and_iff_left rfl]
      by_cases hinflate : ∃ signature, a = .inflate signature
      · obtain ⟨signature, rfl⟩ := hinflate
        refine (Work.inflate_doubted_iff t s signature _).trans (not_congr ?_)
        refine ⟨fun h => ⟨signature, rfl, h⟩, fun ⟨signature', heq, h⟩ => ?_⟩
        cases heq
        exact h
      · refine iff_of_true (Work.perform_doubted t s _ fun signature h => ?_) ?_
        · exact hinflate ⟨signature, h⟩
        · exact fun ⟨signature, h, _⟩ => hinflate ⟨signature, Except.ok.inj h⟩

theorem Work.run_doubted (t : Task σ) : ∀ (sites : List σ) (w : Work σ),
    (∀ v ∈ visits t sites w, ¬v.Withholds) → run t.doubted sites w = run t sites w
  | [], _, _ => rfl
  | s :: rest, w, h => by
      rw [visits, List.forall_mem_cons] at h
      have hstep : w.step t.doubted s = w.step t s := (Visit.step_doubted_iff ⟨t, w, s⟩).mpr h.1
      have hrest := h.2
      rw [run, run, hstep]
      cases hw : w.step t s with
      | mk w' failure =>
          rw [hw] at hrest
          cases failure with
          | none => exact run_doubted t rest w' hrest
          | some e => rfl

namespace Assembler

theorem assembleMethod_doubted {a : Assembler σ} {t : Task σ} {sites : List σ}
    (h : ∀ v ∈ Work.visits t sites (a.begin t sites), ¬v.Withholds) :
    a.assembleMethod t.doubted sites = a.assembleMethod t sites := by
  have hrun := Work.run_doubted t sites (a.begin t sites) h
  have hbegin : a.begin t.doubted sites = a.begin t sites := rfl
  unfold assembleMethod
  rw [hbegin, hrun]
  rfl

theorem assembleNext_doubted {q : Query σ} {o : Oracle σ} {r : UnitsRun σ} {u : MethodUnit σ}
    (h : ∀ v ∈ Work.visits ⟨q, o, u.origin⟩ u.sites
      (r.assembler.begin ⟨q, o, u.origin⟩ u.sites), ¬v.Withholds) :
    assembleNext q o.doubted r u = assembleNext q o r u := by
  have hmethod : r.assembler.assembleMethod ⟨q, o.doubted, u.origin⟩ u.sites =
      r.assembler.assembleMethod ⟨q, o, u.origin⟩ u.sites := assembleMethod_doubted h
  unfold assembleNext
  rw [hmethod]

theorem foldl_assembleNext_doubted (q : Query σ) (o : Oracle σ) (units : List (MethodUnit σ)) :
    ∀ r : UnitsRun σ, (∀ v ∈ unitVisits q o units r, ¬v.Withholds) →
      units.foldl (assembleNext q o.doubted) r = units.foldl (assembleNext q o) r := by
  induction units with
  | nil =>
      intro r _
      rw [List.foldl_nil, List.foldl_nil]
  | cons u us ih =>
      intro r h
      rw [unitVisits, List.forall_mem_append] at h
      rw [List.foldl_cons, List.foldl_cons, assembleNext_doubted h.1]
      exact ih (assembleNext q o r u) h.2

/-- An answer without a value is taken for an unknown one, but for the flag
of an inflation. Unless some inflation withholds its copies from a
container on account of such a flag, the methods are assembled alike with
the doubting oracle: counts, log and recovered interface are the same. The
exception is exact: a step is the same with both oracles just if it
withholds nothing. -/
theorem doubted_same_unless_withheld (a : Assembler σ) (q : Query σ) (o : Oracle σ)
    (units : List (MethodUnit σ)) :
    ((∀ v ∈ a.callVisits (.units q o units), ¬v.Withholds) →
      let known := a.assemble q o units
      let doubted := a.assemble q o.doubted units
      doubted.stats = known.stats ∧ doubted.log = known.log ∧
        doubted.assembler.finish = known.assembler.finish) ∧
      ∀ v ∈ a.callVisits (.units q o units),
        v.work.step v.task.doubted v.site = v.work.step v.task v.site ↔ ¬v.Withholds := by
  refine ⟨fun h => ?_, fun v _ => v.step_doubted_iff⟩
  have hunits := foldl_assembleNext_doubted q o units { assembler := a, stats := [], log := [] } h
  have hsame : a.assemble q o.doubted units = a.assemble q o units := by
    unfold assemble
    rw [hunits]
  dsimp only
  rw [hsame]
  exact ⟨rfl, rfl, rfl⟩

/-- A list is made, a box is inflated for it with a flag that is known, and
a text has no value. -/
theorem doubted_same_unless_withheld_labelledBox :
    let q := Query.straightLine ["android.widget.ListView getListView()",
      "android.view.View inflate(int,android.view.ViewGroup,boolean)",
      "void setText(java.lang.CharSequence)"]
    let o : Oracle Nat := fun _ s => .known (.ofList (if s = 2 then [] else [.int 100]))
    let units : List (MethodUnit Nat) := [⟨[0, 1, 2], .activity "Main" ""⟩]
    let known := labelledBox.assemble q o units
    let doubted := labelledBox.assemble q o.doubted units
    (labelledBox.callVisits (.units q o units)).length = 3 ∧ o.doubted (.arg 0) 2 = .unknown ∧
      known.stats.map MethodStats.unknownValues = [1] ∧ known.assembler.scene.children 2 = [3] ∧
      doubted.stats = known.stats ∧ doubted.log = known.log ∧
        doubted.assembler.finish = known.assembler.finish := by
  intro q o units known doubted
  exact ⟨by decide +kernel, by decide +kernel, by decide +kernel, by decide +kernel,
    (doubted_same_unless_withheld labelledBox q o units).1 (by decide +kernel)⟩

/-- A box is inflated for a list with a flag that has no value. It is kept
from the list, which would hold it if nothing were known of the flag. -/
theorem withheld_from_list_labelledBox :
    let q := Query.straightLine ["android.widget.ListView getListView()",
      "android.view.View inflate(int,android.view.ViewGroup,boolean)"]
    let o : Oracle Nat := fun ref _ => .known (.ofList (if ref = .arg 2 then [] else [.int 100]))
    let units : List (MethodUnit Nat) := [⟨[0, 1], .activity "Main" ""⟩]
    let known := labelledBox.assemble q o units
    let doubted := labelledBox.assemble q o.doubted units
    labelledBox.Prepared ∧ known.assembler.finish.scene.children 2 = [] ∧
      doubted.assembler.finish.scene.children 2 = [3] ∧
      doubted.assembler.finish ≠ known.assembler.finish := by
  intro q o units known doubted
  have hknown : known.assembler.finish.scene.children 2 = [] := by decide +kernel
  have hdoubted : doubted.assembler.finish.scene.children 2 = [3] := by decide +kernel
  refine ⟨prepared_labelledBox, hknown, hdoubted, fun hsame => ?_⟩
  rw [hsame, hknown] at hdoubted
  cases hdoubted

end Assembler

end

end UiRecovery
