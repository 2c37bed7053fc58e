import UiRecovery.Proofs.Skipping
import UiRecovery.Proofs.Tagging

/-!
# The record of calls

Where the settings ask for it, every call is recorded as used by the
component for which it was met. `Query.MeetsCall` says from the code alone
which calls a method comes by: those at its sites up to the first malformed
one, which is included, as a call is recorded before the site is looked at
more closely.

The record is exact (`calls_recorded_exactly`), and for that two things have
to be seen:

- **nothing but `noteCall` writes it** (`calls_perform`). Actions are told
  what they need to know of a call, and never ask the code for it. So they
  do the same for code that does not say what it calls (`perform_silent`),
  and of such code no move can record a call;
- **a method is recorded as far as it gets**, and all methods go into one
  table (`mem_originsOfCall_run`, `mem_originsOfCall_foldl`). A later
  failure takes nothing back.
-/

namespace UiRecovery

/-! ## The calls of a method -/

namespace Query

variable {σ : Type}

/-- The call is made at a site that is not behind a malformed one. -/
def MeetsCall (q : Query σ) (sites : List σ) (signature : String) : Prop :=
  ∃ (i : Nat) (s : σ), sites[i]? = some s ∧ q.callSignature s = some signature ∧
    ∀ n s' e, sites[n]? = some s' → q.Malformed s' e → i ≤ n

variable {q : Query σ} {s : σ} {rest : List σ} {signature : String}

theorem not_meetsCall_nil : ¬q.MeetsCall [] signature := by
  rintro ⟨i, s, hs, -⟩
  simp at hs

theorem meetsCall_head (hcall : q.callSignature s = some signature) :
    q.MeetsCall (s :: rest) signature :=
  ⟨0, s, rfl, hcall, fun _ _ _ _ _ => Nat.zero_le _⟩

theorem meetsCall_cons_of_malformed {e : Error} (hs : q.Malformed s e) :
    q.MeetsCall (s :: rest) signature ↔ q.callSignature s = some signature := by
  refine ⟨?_, meetsCall_head⟩
  rintro ⟨i, x, hx, hcall, hfirst⟩
  obtain rfl : i = 0 := Nat.le_zero.mp (hfirst 0 s e rfl hs)
  obtain rfl := Option.some.inj hx
  exact hcall

theorem meetsCall_cons_of_not_malformed (hs : ∀ e, ¬q.Malformed s e) :
    q.MeetsCall (s :: rest) signature ↔
      q.callSignature s = some signature ∨ q.MeetsCall rest signature := by
  constructor
  · rintro ⟨i, x, hx, hcall, hfirst⟩
    cases i with
    | zero =>
        obtain rfl := Option.some.inj hx
        exact Or.inl hcall
    | succ i =>
        refine Or.inr ⟨i, x, hx, hcall, ?_⟩
        intro n y e hy hmalformed
        exact Nat.le_of_succ_le_succ (hfirst (n + 1) y e hy hmalformed)
  · rintro (hcall | ⟨i, x, hx, hcall, hfirst⟩)
    · exact meetsCall_head hcall
    · refine ⟨i + 1, x, hx, hcall, ?_⟩
      intro n y e hy hmalformed
      cases n with
      | zero =>
          obtain rfl := Option.some.inj hy
          exact absurd hmalformed (hs e)
      | succ n => exact Nat.succ_le_succ (hfirst n y e hy hmalformed)

end Query

/-! ## Who writes the record -/

/-- The same task, on code that does not say what it calls. -/
def Task.silent {σ : Type} (t : Task σ) : Task σ :=
  { t with query := { t.query with callSignature := fun _ => none } }

namespace Work

variable {σ : Type} [DecidableEq σ] {t : Task σ} {s : σ} {w : Work σ} {o : Origin}
  {signature : String}

section

omit [DecidableEq σ]

theorem askLabels_silent (w : Work σ) (t : Task σ) (ref : ValueRef) (s : σ) :
    w.askLabels t.silent ref s = w.askLabels t ref s := rfl

theorem askInts_silent (w : Work σ) (t : Task σ) (ref : ValueRef) (s : σ) :
    w.askInts t.silent ref s = w.askInts t ref s := rfl

theorem askLabelsAt_silent (w : Work σ) (t : Task σ) (position : Option Nat) (s : σ) :
    w.askLabelsAt t.silent position s = w.askLabelsAt t position s := rfl

theorem askIntsAt_silent (w : Work σ) (t : Task σ) (position : Option Nat) (s : σ) :
    w.askIntsAt t.silent position s = w.askIntsAt t position s := rfl

end

theorem perform_silent (w : Work σ) (t : Task σ) (s : σ) (a : Action σ) :
    w.perform t.silent s a = w.perform t s a := by
  cases a with
  | inflate signature =>
      simp only [perform, inflate_eq, askInts_silent]
      rfl
  | fragment signature =>
      simp only [perform, fragment_eq, askLabels_silent, askLabelsAt_silent, askIntsAt_silent]
      rfl
  | call signature =>
      simp only [perform, call_eq, dialogCall, setterCall_eq, askLabels_silent, askInts_silent]
      rfl
  | _ => rfl

theorem Moves.calls_of_silent {sites : List σ} {x y : Set Nat × Work σ}
    (h : Moves t.silent sites x y) : y.2.attribution.calls = x.2.attribution.calls := by
  induction h with
  | refl => rfl
  | tail _ hmove ih =>
      rw [← ih]
      cases hmove with
      | call _ _ hsignature => cases hsignature
      | _ => rfl

/-- No action changes the record of calls. -/
theorem calls_perform (w : Work σ) (t : Task σ) (s : σ) (a : Action σ) :
    (w.perform t s a).attribution.calls = w.attribution.calls := by
  have hmoves : Moves t.silent [s] (∅, w) (∅, w.perform t.silent s a) :=
    moves_perform w List.mem_cons_self a
  rw [← perform_silent]
  exact hmoves.calls_of_silent

omit [DecidableEq σ] in
theorem mem_originsOfCall_noteCall (htrack : w.settings.trackCalls = true) :
    o ∈ (w.noteCall t s).attribution.originsOfCall signature ↔
      o ∈ w.attribution.originsOfCall signature ∨
        o = t.origin ∧ t.query.callSignature s = some signature := by
  unfold noteCall
  rw [if_pos htrack]
  cases hcall : t.query.callSignature s with
  | none => simp
  | some met =>
      refine OrderedMap.mem_tagsOf_tag.trans ?_
      rw [Option.some.injEq, and_comm, eq_comm (a := signature)]
      rfl

/-- A site adds its call to the record, whether or not it is malformed. -/
theorem mem_originsOfCall_step (htrack : w.settings.trackCalls = true) :
    o ∈ (w.step t s).1.attribution.originsOfCall signature ↔
      o ∈ w.attribution.originsOfCall signature ∨
        o = t.origin ∧ t.query.callSignature s = some signature := by
  have hcalls : (w.step t s).1.attribution.calls = (w.noteCall t s).attribution.calls := by
    rw [step_eq]
    cases t.query.action s with
    | ok a => exact calls_perform _ t s a
    | error e => rfl
  refine Iff.trans ?_ (mem_originsOfCall_noteCall htrack)
  unfold Attribution.originsOfCall
  rw [hcalls]

/-- A run adds the calls that it comes by, wherever it ends. -/
theorem mem_originsOfCall_run : ∀ (sites : List σ) {w : Work σ},
    w.settings.trackCalls = true →
      (o ∈ (run t sites w).1.attribution.originsOfCall signature ↔
        o ∈ w.attribution.originsOfCall signature ∨
          o = t.origin ∧ t.query.MeetsCall sites signature)
  | [], w, _ => by simp [run, Query.not_meetsCall_nil]
  | s :: rest, w, htrack => by
      by_cases hs : ∃ e, t.query.Malformed s e
      · obtain ⟨e, he⟩ := hs
        rw [run_cons_of_malformed he, Query.meetsCall_cons_of_malformed he]
        exact mem_originsOfCall_noteCall htrack
      · have hs' : ∀ e, ¬t.query.Malformed s e := fun e he => hs ⟨e, he⟩
        have hmoves : Moves t [s] (∅, w) (∅, (w.step t s).1) := moves_step w List.mem_cons_self
        have htrack' : (w.step t s).1.settings.trackCalls = true := by
          rw [hmoves.untouched.settings]
          exact htrack
        rw [run_cons_of_not_malformed hs', mem_originsOfCall_run rest htrack',
          mem_originsOfCall_step htrack, Query.meetsCall_cons_of_not_malformed hs', or_assoc,
          and_or_left]

end Work

/-! ## Methods -/

namespace Assembler

variable {σ : Type} [DecidableEq σ] {a : Assembler σ} {q : Query σ} {o : Origin}
  {signature : String}

theorem attribution_assembleMethod (a : Assembler σ) (t : Task σ) (sites : List σ) :
    (a.assembleMethod t sites).assembler.attribution =
      (Work.run t sites (a.begin t sites)).1.attribution := by
  rw [assembler_assembleMethod]
  split <;> rfl

theorem settings_assembleMethod (a : Assembler σ) (t : Task σ) (sites : List σ) :
    (a.assembleMethod t sites).assembler.settings = a.settings := by
  have hrun := (untouched_run a t sites).settings
  rw [assembler_assembleMethod]
  split
  · exact hrun
  · exact hrun

/-- That a method is recorded as skipped changes neither the settings nor
the attributions. -/
theorem exists_skipped_assembleNext (q : Query σ) (oracle : Oracle σ) (r : UnitsRun σ)
    (u : MethodUnit σ) : ∃ skipped, (assembleNext q oracle r u).assembler =
      { (r.assembler.assembleMethod ⟨q, oracle, u.origin⟩ u.sites).assembler with skipped } := by
  unfold assembleNext
  dsimp only
  split
  · exact ⟨_, rfl⟩
  · exact ⟨_, rfl⟩

/-- Several methods add the calls that each of them comes by. -/
theorem mem_originsOfCall_foldl (q : Query σ) (oracle : Oracle σ) (o : Origin)
    (signature : String) : ∀ (units : List (MethodUnit σ)) {r : UnitsRun σ},
      r.assembler.settings.trackCalls = true →
        (o ∈ (units.foldl (assembleNext q oracle) r).assembler.attribution.originsOfCall signature ↔
          o ∈ r.assembler.attribution.originsOfCall signature ∨
            ∃ u ∈ units, u.origin = o ∧ q.MeetsCall u.sites signature)
  | [], r, _ => by simp
  | u :: units, r, htrack => by
      obtain ⟨skipped, hnext⟩ := exists_skipped_assembleNext q oracle r u
      have htrack' : (assembleNext q oracle r u).assembler.settings.trackCalls = true := by
        rw [hnext]
        exact (congrArg Settings.trackCalls (settings_assembleMethod ..)).trans htrack
      have hfirst : o ∈ (assembleNext q oracle r u).assembler.attribution.originsOfCall signature ↔
          o ∈ r.assembler.attribution.originsOfCall signature ∨
            o = u.origin ∧ q.MeetsCall u.sites signature := by
        rw [hnext]
        dsimp only
        rw [attribution_assembleMethod]
        exact Work.mem_originsOfCall_run u.sites htrack
      rw [List.foldl_cons, mem_originsOfCall_foldl q oracle o signature units htrack', hfirst,
        or_assoc, List.exists_mem_cons_iff, eq_comm (a := o)]

/-- The record of calls is exact. Whatever methods are assembled on a
prepared assembler that records calls, and for whatever components, a call
is attributed to a component just if some method of the component makes it
at a site that is not behind its first malformed site. Which idiom the site
belongs to, if any, plays no part. -/
theorem calls_recorded_exactly (ha : a.Prepared) (htrack : a.settings.trackCalls = true)
    (q : Query σ) (oracle : Oracle σ) (units : List (MethodUnit σ)) (o : Origin)
    (signature : String) :
    let record := (a.assemble q oracle units).assembler.attribution
    (signature ∈ record.callsOf o ↔
        ∃ u ∈ units, u.origin = o ∧ q.MeetsCall u.sites signature) ∧
      (o ∈ record.originsOfCall signature ↔ signature ∈ record.callsOf o) := by
  intro record
  have hempty : o ∉ a.attribution.originsOfCall signature := by
    rw [congrArg attribution ha.pristine]
    exact List.not_mem_nil
  have hrecord : o ∈ record.originsOfCall signature ↔
      ∃ u ∈ units, u.origin = o ∧ q.MeetsCall u.sites signature :=
    (mem_originsOfCall_foldl q oracle o signature units htrack).trans (or_iff_right hempty)
  have hagree : signature ∈ record.callsOf o ↔ o ∈ record.originsOfCall signature :=
    OrderedMap.mem_taggedWith
  exact ⟨hagree.trans hrecord, hagree.symm⟩

/-- A lookup whose result is not kept ends the method of one screen. It is
recorded itself, and what comes behind it is recorded for another screen
only. -/
theorem calls_recorded_exactly_labelledBox :
    let q := Query.straightLine
      ["void finish()", "android.view.View findViewById(int)", "void setContentView(int)"]
    let t := Task.straightLine []
    let other := Origin.activity "Other" ""
    let units : List (MethodUnit Nat) := [⟨[0, 1, 2], t.origin⟩, ⟨[2], other⟩]
    let record := (labelledBox.assemble q t.oracle units).assembler.attribution
    labelledBox.Prepared ∧ labelledBox.settings.trackCalls = true ∧
      record.callsOf t.origin = ["void finish()", "android.view.View findViewById(int)"] ∧
      record.callsOf other = ["void setContentView(int)"] ∧
      (∃ u ∈ units, u.origin = other ∧ q.MeetsCall u.sites "void setContentView(int)") ∧
      ¬∃ u ∈ units, u.origin = t.origin ∧ q.MeetsCall u.sites "void setContentView(int)" := by
  intro q t other units record
  have htrack : labelledBox.settings.trackCalls = true := by decide
  have hmain : record.callsOf t.origin =
      ["void finish()", "android.view.View findViewById(int)"] := by decide +kernel
  have hother : record.callsOf other = ["void setContentView(int)"] := by decide +kernel
  have hexact := fun o => (calls_recorded_exactly prepared_labelledBox htrack q t.oracle units o
    "void setContentView(int)").1
  refine ⟨prepared_labelledBox, htrack, hmain, hother, (hexact other).mp ?_, fun hmet => ?_⟩
  · show _ ∈ record.callsOf other
    rw [hother]
    exact List.mem_cons_self
  · have hmem : "void setContentView(int)" ∈ record.callsOf t.origin := (hexact t.origin).mpr hmet
    rw [hmain] at hmem
    revert hmem
    decide

end Assembler

end UiRecovery
