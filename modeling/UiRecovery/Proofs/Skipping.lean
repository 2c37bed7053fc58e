import Mathlib.Data.List.Forall2
import UiRecovery.Proofs.Histories

/-!
# What is skipped, and what a skipped method leaves behind

A method is given up at the first site of a pair that the code does not
complete. `Query.Malformed` says which sites these are and why, from the
answers about the code alone: neither what has been recovered so far nor
what is known about values plays a part in it (`skips_by_code`). Work at a
site can fail in other places as well, wherever a child is attached, but it
does not: the only refusal, to attach a widget to itself, is noted and
passed over.

A method that is given up leaves what the sites before had done, except
for the dialogs that it had begun (`failure_keeps_good_part`).
-/

namespace UiRecovery

/-! ## Malformed sites -/

theorem bind_eq_error_iff {ε α β : Type} {x : Except ε α} {f : α → Except ε β} {e : ε} :
    x >>= f = .error e ↔ x = .error e ∨ ∃ a, x = .ok a ∧ f a = .error e := by
  cases x with
  | error e' => simp [bind, Except.bind]
  | ok a => simp [bind, Except.bind]

namespace Query

variable {σ : Type}

/-- The site belongs to a pair that is not complete. -/
inductive Malformed (q : Query σ) (s : σ) : Error → Prop
  | construction {e : Error} (hlookup : q.isFindViewById s = true)
      (herror : q.constructionOf s = .error e) : Malformed q s e
  | lookup {e : Error} (hlookup : q.isFindViewById s = true)
      (hconstruction : q.constructionOf s = .ok s)
      (herror : q.viewLookupOf s = .error e) : Malformed q s e
  | child {e : Error} (hlookup : q.isFindViewById s = false)
      (hchild : q.isGetChildAt s = true)
      (herror : q.childConstructionOf s = .error e) : Malformed q s e

/-- None of the sites is malformed. -/
def WellFormed (q : Query σ) (sites : List σ) : Prop := ∀ s ∈ sites, ∀ e, ¬q.Malformed s e

/-- The first of the sites that is malformed is so for the reason `e`. -/
def FailsWith (q : Query σ) (sites : List σ) (e : Error) : Prop :=
  ∃ before s after, sites = before ++ s :: after ∧ q.WellFormed before ∧ q.Malformed s e

variable {q : Query σ} {s : σ} {e : Error}

theorem constructionNear_eq_error (h : q.constructionNear s = .error e) :
    ∃ m : Mispairing, e = q.malformed s m := by
  unfold constructionNear at h
  split at h
  · exact ⟨.unassigned, (Except.error.inj h).symm⟩
  · split at h
    · cases h
    · split at h
      · split at h
        · cases h
        · exact ⟨.noConstruction, (Except.error.inj h).symm⟩
      · exact ⟨.noConstruction, (Except.error.inj h).symm⟩

theorem constructionOf_eq_error (h : q.constructionOf s = .error e) :
    ∃ m : Mispairing, e = q.malformed s m := by
  unfold constructionOf at h
  split at h
  · exact constructionNear_eq_error h
  · exact ⟨.notLookup, (Except.error.inj h).symm⟩

theorem childConstructionOf_eq_error (h : q.childConstructionOf s = .error e) :
    ∃ m : Mispairing, e = q.malformed s m := by
  unfold childConstructionOf at h
  split at h
  · exact constructionNear_eq_error h
  · exact ⟨.notChildAt, (Except.error.inj h).symm⟩

theorem viewLookupOf_eq_error (h : q.viewLookupOf s = .error e) :
    ∃ m : Mispairing, e = q.malformed s m := by
  unfold viewLookupOf at h
  split at h
  · exact ⟨.notLookup, (Except.error.inj h).symm⟩
  · split at h
    · exact ⟨.lookupUnassigned, (Except.error.inj h).symm⟩
    · split at h
      · cases h
      · split at h
        · split at h
          · cases h
          · exact ⟨.notAfterLookup, (Except.error.inj h).symm⟩
        · exact ⟨.notAfterLookup, (Except.error.inj h).symm⟩

/-- The error names the site, its method and what the pair lacks. -/
theorem Malformed.eq_malformed (h : q.Malformed s e) :
    ∃ m : Mispairing, e = q.malformed s m := by
  cases h with
  | construction _ herror => exact constructionOf_eq_error herror
  | lookup _ _ herror => exact viewLookupOf_eq_error herror
  | child _ _ herror => exact childConstructionOf_eq_error herror

variable [DecidableEq σ]

theorem action_of_isFindViewById (hlookup : q.isFindViewById s = true) :
    q.action s = do
      let construction ← q.constructionOf s
      if construction = s then return .lookup (← q.viewLookupOf s) (q.constructedClass s)
      else return .await := by
  unfold action dispatch
  rw [if_pos hlookup]

theorem action_of_isGetChildAt (hlookup : ¬q.isFindViewById s = true)
    (hchild : q.isGetChildAt s = true) :
    q.action s = do
      let construction ← q.childConstructionOf s
      if construction = s then return .childAt (q.childCallOf s) else return .await := by
  unfold action dispatch
  rw [if_neg hlookup, if_pos hchild]

/-- Outside the two idioms that come in pairs nothing is refused. -/
theorem exists_action (hlookup : ¬q.isFindViewById s = true)
    (hchild : ¬q.isGetChildAt s = true) : ∃ a, q.action s = .ok a := by
  have hsingle : q.dispatch s ≠ some .findViewById ∧ q.dispatch s ≠ some .getChildAt := by
    unfold dispatch
    rw [if_neg hlookup, if_neg hchild]
    grind
  unfold action
  generalize q.dispatch s = idiom at hsingle
  cases idiom with
  | none => cases q.callSignature s <;> exact ⟨_, rfl⟩
  | some idiom =>
      cases idiom with
      | findViewById => exact absurd rfl hsingle.1
      | getChildAt => exact absurd rfl hsingle.2
      | nullAssignment => exact ⟨_, rfl⟩
      | newExpression => exact ⟨_, rfl⟩
      | _ => cases q.callSignature s <;> exact ⟨_, rfl⟩

theorem malformed_of_action_eq_error (h : q.action s = .error e) : q.Malformed s e := by
  by_cases hlookup : q.isFindViewById s = true
  · rw [action_of_isFindViewById hlookup] at h
    rcases bind_eq_error_iff.mp h with herror | ⟨c, hc, herror⟩
    · exact .construction hlookup herror
    · by_cases hself : c = s
      · rw [if_pos hself] at herror
        rcases bind_eq_error_iff.mp herror with herror | ⟨_, _, hdone⟩
        · exact .lookup hlookup (hself ▸ hc) herror
        · cases hdone
      · rw [if_neg hself] at herror
        cases herror
  · by_cases hchild : q.isGetChildAt s = true
    · rw [action_of_isGetChildAt hlookup hchild] at h
      rcases bind_eq_error_iff.mp h with herror | ⟨c, _, hdone⟩
      · exact .child (Bool.not_eq_true _ ▸ hlookup) hchild herror
      · by_cases hself : c = s
        · rw [if_pos hself] at hdone
          cases hdone
        · rw [if_neg hself] at hdone
          cases hdone
    · obtain ⟨a, ha⟩ := exists_action hlookup hchild
      rw [ha] at h
      cases h

theorem Malformed.action_eq_error (h : q.Malformed s e) : q.action s = .error e := by
  cases h with
  | construction hlookup herror =>
      rw [action_of_isFindViewById hlookup]
      exact bind_eq_error_iff.mpr (Or.inl herror)
  | lookup hlookup hconstruction herror =>
      rw [action_of_isFindViewById hlookup]
      refine bind_eq_error_iff.mpr (Or.inr ⟨s, hconstruction, ?_⟩)
      rw [if_pos rfl]
      exact bind_eq_error_iff.mpr (Or.inl herror)
  | child hlookup hchild herror =>
      rw [action_of_isGetChildAt (Bool.not_eq_true _ ▸ hlookup) hchild]
      exact bind_eq_error_iff.mpr (Or.inl herror)

theorem fault?_eq_some_iff : q.fault? s = some e ↔ q.Malformed s e := by
  have haction : q.fault? s = some e ↔ q.action s = .error e := by
    unfold fault?
    cases q.action s with
    | ok a => simp
    | error e' => simp
  exact haction.trans ⟨malformed_of_action_eq_error, Malformed.action_eq_error⟩

variable {sites : List σ}

theorem fault?_eq_none_iff : q.fault? s = none ↔ ∀ e, ¬q.Malformed s e := by
  rw [Option.eq_none_iff_forall_ne_some]
  exact forall_congr' fun e => not_congr fault?_eq_some_iff

theorem findSome?_fault?_eq_none_iff :
    sites.findSome? q.fault? = none ↔ q.WellFormed sites := by
  rw [List.findSome?_eq_none_iff]
  exact forall₂_congr fun s _ => fault?_eq_none_iff

theorem findSome?_fault?_eq_some_iff :
    sites.findSome? q.fault? = some e ↔ q.FailsWith sites e := by
  rw [List.findSome?_eq_some_iff]
  constructor
  · rintro ⟨before, s, after, hsites, hs, hbefore⟩
    exact ⟨before, s, after, hsites, fun x hx => fault?_eq_none_iff.mp (hbefore x hx),
      fault?_eq_some_iff.mp hs⟩
  · rintro ⟨before, s, after, hsites, hbefore, hs⟩
    exact ⟨before, s, after, hsites, fault?_eq_some_iff.mpr hs,
      fun x hx => fault?_eq_none_iff.mpr (hbefore x hx)⟩

instance (q : Query σ) (sites : List σ) : Decidable (q.WellFormed sites) :=
  decidable_of_iff (sites.findSome? q.fault? = none) findSome?_fault?_eq_none_iff

theorem exists_failsWith (h : ¬q.WellFormed sites) : ∃ e, q.FailsWith sites e := by
  cases hfault : sites.findSome? q.fault? with
  | none => exact absurd (findSome?_fault?_eq_none_iff.mp hfault) h
  | some e => exact ⟨e, findSome?_fault?_eq_some_iff.mp hfault⟩

end Query

/-! ## Runs stop at the first malformed site -/

namespace Work

variable {σ : Type} [DecidableEq σ] {t : Task σ} {s : σ} {e : Error}

/-- Work at a malformed site records the call and fails, and at no other
site does it fail. -/
theorem stepM_of_malformed (hs : t.query.Malformed s e) (w : Work σ) :
    w.stepM .running t s = .error (e, w.noteCall t s) := by
  unfold stepM
  rw [running_serves.followM_eq (List.mem_singleton_self s) trivial, hs.action_eq_error]
  rfl

theorem snd_step_eq_some_iff {w : Work σ} : (w.step t s).2 = some e ↔ t.query.Malformed s e := by
  rw [step_eq]
  cases haction : t.query.action s with
  | ok a =>
      refine ⟨nofun, fun hs => ?_⟩
      rw [hs.action_eq_error] at haction
      cases haction
  | error e' =>
      refine ⟨fun herror => ?_, fun hs => ?_⟩
      · cases herror
        exact Query.malformed_of_action_eq_error haction
      · rw [hs.action_eq_error] at haction
        cases haction
        rfl

theorem run_cons_of_malformed (hs : t.query.Malformed s e) (rest : List σ) (w : Work σ) :
    run t (s :: rest) w = (w.noteCall t s, some e) := by
  rw [run, step, stepM_of_malformed hs]
  rfl

theorem run_cons_of_not_malformed (hs : ∀ e, ¬t.query.Malformed s e) (rest : List σ)
    (w : Work σ) : run t (s :: rest) w = run t rest (w.step t s).1 := by
  have hstep : (w.step t s).2 = none :=
    Option.eq_none_iff_forall_ne_some.mpr fun e he => hs e (snd_step_eq_some_iff.mp he)
  rw [run]
  cases hnext : w.step t s with
  | mk w' failure =>
      rw [hnext] at hstep
      cases hstep
      rfl

theorem run_append {before : List σ} (hbefore : t.query.WellFormed before) (rest : List σ)
    (w : Work σ) : run t (before ++ rest) w = run t rest (run t before w).1 := by
  induction before generalizing w with
  | nil => rfl
  | cons s before ih =>
      have hs := hbefore s List.mem_cons_self
      rw [List.cons_append, run_cons_of_not_malformed hs, run_cons_of_not_malformed hs]
      exact ih (fun x hx => hbefore x (List.mem_cons_of_mem s hx)) _

theorem run_of_wellFormed {sites : List σ} (hsites : t.query.WellFormed sites) (w : Work σ) :
    (run t sites w).2 = none := by
  rw [← List.append_nil sites, run_append hsites]
  rfl

/-- A run stops at the first malformed site, whose call is still noted. -/
theorem run_of_malformed {before : List σ} (hbefore : t.query.WellFormed before)
    (hs : t.query.Malformed s e) (after : List σ) (w : Work σ) :
    run t (before ++ s :: after) w = ((run t before w).1.noteCall t s, some e) := by
  rw [run_append hbefore, run_cons_of_malformed hs]

end Work

namespace Assembler

variable {σ : Type}

/-! ## The call at a site -/

/-- The call at a site belongs to the component, if calls are recorded. -/
def attributeCall (a : Assembler σ) (t : Task σ) (s : σ) : Assembler σ :=
  match t.query.callSignature s, a.settings.trackCalls with
  | some signature, true =>
      { a with attribution := a.attribution.tagCall signature t.origin }
  | _, _ => a

theorem toAssembler_noteCall (w : Work σ) (t : Task σ) (s : σ) :
    (w.noteCall t s).toAssembler = w.toAssembler.attributeCall t s := by
  unfold Work.noteCall attributeCall
  cases w.settings.trackCalls with
  | false => cases t.query.callSignature s <;> rfl
  | true => cases t.query.callSignature s <;> rfl

/-- Dialogs and attributions do not meet. -/
theorem attributeCall_addDialogs (a : Assembler σ) (t : Task σ) (s : σ) (o : Origin)
    (drafts : List Dialog) :
    { (a.addDialogs o drafts).attributeCall t s with dialogs := a.dialogs } =
      a.attributeCall t s := by
  unfold attributeCall addDialogs
  dsimp only
  cases t.query.callSignature s with
  | none => rfl
  | some signature => cases a.settings.trackCalls <;> rfl

/-! ## One method -/

variable [DecidableEq σ] {a : Assembler σ} {t : Task σ} {sites : List σ}

theorem assembleMethod_of_wellFormed (hsites : t.query.WellFormed sites) :
    ∃ stats, (a.assembleMethod t sites).result = .ok stats ∧
      stats.method = methodName t.query sites ∧ stats.instructions = sites.length := by
  have hrun := Work.run_of_wellFormed hsites (a.begin t sites)
  unfold assembleMethod
  cases hend : Work.run t sites (a.begin t sites) with
  | mk w failure =>
      rw [hend] at hrun
      cases hrun
      exact ⟨_, rfl, rfl, rfl⟩

theorem assembleMethod_of_failsWith {e : Error} (hsites : t.query.FailsWith sites e) :
    (a.assembleMethod t sites).result = .error e := by
  obtain ⟨before, s, after, rfl, hbefore, hs⟩ := hsites
  unfold assembleMethod
  rw [Work.run_of_malformed hbefore hs]

theorem result_eq_error_iff {e : Error} :
    (a.assembleMethod t sites).result = .error e ↔ t.query.FailsWith sites e := by
  constructor
  · intro herror
    by_cases hsites : t.query.WellFormed sites
    · obtain ⟨stats, hok, -⟩ := assembleMethod_of_wellFormed hsites
      rw [hok] at herror
      cases herror
    · obtain ⟨e', he'⟩ := Query.exists_failsWith hsites
      rw [assembleMethod_of_failsWith he'] at herror
      cases herror
      exact he'
  · exact assembleMethod_of_failsWith

theorem untouched_run (a : Assembler σ) (t : Task σ) (sites : List σ) :
    a.Untouched (Work.run t sites (a.begin t sites)).1.toAssembler :=
  Work.Moves.untouched (Work.moves_run sites (fun _ hs => hs) (a.begin t sites))

theorem skipped_assembleMethod (a : Assembler σ) (t : Task σ) (sites : List σ) :
    (a.assembleMethod t sites).assembler.skipped = a.skipped := by
  rw [assembler_assembleMethod]
  split
  · exact (untouched_run a t sites).skipped
  · exact (untouched_run a t sites).skipped

/-! ## Several methods -/

/-- The counts are those of the method. -/
def CountsOf (q : Query σ) (u : MethodUnit σ) (stats : MethodStats) : Prop :=
  stats.method = methodName q u.sites ∧ stats.instructions = u.sites.length

/-- The method was given up at its first malformed site. -/
def SkippedAs (q : Query σ) (u : MethodUnit σ) (skipped : SkippedMethod) : Prop :=
  ∃ e, q.FailsWith u.sites e ∧ skipped = skippedMethod q u.sites e

theorem assembleNext_of_wellFormed {q : Query σ} {u : MethodUnit σ}
    (hu : q.WellFormed u.sites) (o : Oracle σ) (r : UnitsRun σ) :
    ∃ stats, CountsOf q u stats ∧ (assembleNext q o r u).stats = r.stats ++ [stats] ∧
      (assembleNext q o r u).assembler.skipped = r.assembler.skipped := by
  obtain ⟨stats, hok, hcounts⟩ :=
    assembleMethod_of_wellFormed (a := r.assembler) (t := ⟨q, o, u.origin⟩) hu
  refine ⟨stats, hcounts, ?_⟩
  unfold assembleNext
  dsimp only
  rw [hok]
  exact ⟨rfl, skipped_assembleMethod ..⟩

theorem assembleNext_of_failsWith {q : Query σ} {u : MethodUnit σ} {e : Error}
    (hu : q.FailsWith u.sites e) (o : Oracle σ) (r : UnitsRun σ) :
    (assembleNext q o r u).stats = r.stats ∧
      (assembleNext q o r u).assembler.skipped =
        r.assembler.skipped ++ [skippedMethod q u.sites e] := by
  have herror := assembleMethod_of_failsWith (a := r.assembler) (t := ⟨q, o, u.origin⟩) hu
  unfold assembleNext
  dsimp only
  rw [herror]
  refine ⟨rfl, ?_⟩
  show _ ++ [_] = _
  rw [skipped_assembleMethod]

/-- Of several methods, those without a malformed site are counted and all
others are recorded as skipped. -/
theorem foldl_assembleNext (q : Query σ) (o : Oracle σ) :
    ∀ (units : List (MethodUnit σ)) (r : UnitsRun σ), ∃ stats skipped,
      (units.foldl (assembleNext q o) r).stats = r.stats ++ stats ∧
      (units.foldl (assembleNext q o) r).assembler.skipped = r.assembler.skipped ++ skipped ∧
      List.Forall₂ (CountsOf q) (units.filter fun u => q.WellFormed u.sites) stats ∧
      List.Forall₂ (SkippedAs q) (units.filter fun u => ¬q.WellFormed u.sites) skipped
  | [], r => ⟨[], [], (List.append_nil _).symm, (List.append_nil _).symm, .nil, .nil⟩
  | u :: units, r => by
      obtain ⟨stats, skipped, hstats, hskipped, hcounts, hreasons⟩ :=
        foldl_assembleNext q o units (assembleNext q o r u)
      rw [List.foldl_cons, hstats, hskipped]
      by_cases hu : q.WellFormed u.sites
      · obtain ⟨first, hfirst, hstats', hskipped'⟩ := assembleNext_of_wellFormed hu o r
        refine ⟨first :: stats, skipped, ?_, ?_, ?_, ?_⟩
        · rw [hstats', List.append_assoc]
          rfl
        · rw [hskipped']
        · rw [List.filter_cons_of_pos (by simp [hu])]
          exact .cons hfirst hcounts
        · rw [List.filter_cons_of_neg (by simp [hu])]
          exact hreasons
      · obtain ⟨e, he⟩ := Query.exists_failsWith hu
        obtain ⟨hstats', hskipped'⟩ := assembleNext_of_failsWith he o r
        refine ⟨stats, skippedMethod q u.sites e :: skipped, ?_, ?_, ?_, ?_⟩
        · rw [hstats']
        · rw [hskipped', List.append_assoc]
          rfl
        · rw [List.filter_cons_of_neg (by simp [hu])]
          exact hcounts
        · rw [List.filter_cons_of_pos (by simp [hu])]
          exact .cons ⟨e, he, rfl⟩ hreasons

/-- Skipping depends only on the code. Whatever has been recovered and
whatever the oracle answers, no attachment fails, work at a site fails
exactly if the site is malformed, and a method exactly if it has such a
site, with the error of the first of these, which names the site and what
its pair lacks. So of several methods those without a malformed site are
counted, all others are recorded as skipped, and both in their order. -/
theorem skips_by_code (a : Assembler σ) (q : Query σ) (o : Oracle σ) :
    (∀ (w : Work σ) parent child, ∃ w', w.attachM .running parent child = .ok w') ∧
    (∀ origin (w : Work σ) s e, (w.step ⟨q, o, origin⟩ s).2 = some e ↔ q.Malformed s e) ∧
    (∀ origin sites e, (a.assembleMethod ⟨q, o, origin⟩ sites).result = .error e ↔
      ∃ before s after m, sites = before ++ s :: after ∧ q.WellFormed before ∧
        q.Malformed s e ∧
        e = .malformedIdiom (q.describe s) (q.methodOf s) (Mispairing.reason m)) ∧
    (∀ origin sites, (∃ e, (a.assembleMethod ⟨q, o, origin⟩ sites).result = .error e) ↔
      ∃ s ∈ sites, ∃ e, q.Malformed s e) ∧
    ∀ units, ∃ skipped,
      (a.assemble q o units).assembler.skipped = a.skipped ++ skipped ∧
      List.Forall₂ (SkippedAs q) (units.filter fun u => ¬q.WellFormed u.sites) skipped ∧
      List.Forall₂ (CountsOf q) (units.filter fun u => q.WellFormed u.sites)
        (a.assemble q o units).stats := by
  refine ⟨fun w parent child => ⟨_, Work.attachM_eq rfl child⟩,
    fun origin w s e => Work.snd_step_eq_some_iff, fun origin sites e => ?_,
    fun origin sites => ?_, fun units => ?_⟩
  · rw [result_eq_error_iff]
    constructor
    · rintro ⟨before, s, after, hsites, hbefore, hs⟩
      obtain ⟨m, hm⟩ := hs.eq_malformed
      exact ⟨before, s, after, m, hsites, hbefore, hs, hm⟩
    · rintro ⟨before, s, after, -, hsites, hbefore, hs, -⟩
      exact ⟨before, s, after, hsites, hbefore, hs⟩
  · simp only [result_eq_error_iff]
    constructor
    · rintro ⟨e, before, s, after, rfl, -, hs⟩
      exact ⟨s, List.mem_append_right _ List.mem_cons_self, e, hs⟩
    · rintro ⟨s, hmem, e, hs⟩
      exact Query.exists_failsWith fun hsites => hsites s hmem e hs
  · obtain ⟨stats, skipped, hstats, hskipped, hcounts, hreasons⟩ :=
      foldl_assembleNext q o units { assembler := a, stats := [], log := [] }
    refine ⟨skipped, hskipped, hreasons, ?_⟩
    rw [List.nil_append] at hstats
    exact hstats ▸ hcounts

/-! ## What a failing method leaves behind -/

theorem assembler_of_wellFormed (a : Assembler σ) (hsites : t.query.WellFormed sites) :
    let w := (Work.run t sites (a.begin t sites)).1
    (a.assembleMethod t sites).assembler = w.toAssembler.addDialogs t.origin w.drafts := by
  intro w
  rw [assembler_assembleMethod, Work.run_of_wellFormed hsites]

theorem assembler_of_malformed (a : Assembler σ) {before : List σ} {s : σ} {e : Error}
    (hbefore : t.query.WellFormed before) (hs : t.query.Malformed s e) (after : List σ) :
    (a.assembleMethod t (before ++ s :: after)).assembler =
      (Work.run t before (a.begin t before)).1.toAssembler.attributeCall t s := by
  -- The announcement names the method by its first site, which the part
  -- before `s` may not have. It goes to the log only.
  have hbegin : (Work.run t before (a.begin t (before ++ s :: after))).1.toAssembler =
      (Work.run t before (a.begin t before)).1.toAssembler := by
    cases before with
    | nil => rfl
    | cons x before => rfl
  rw [assembler_assembleMethod, Work.run_of_malformed hbefore hs, ← hbegin]
  exact toAssembler_noteCall _ t s

/-- A failing method leaves exactly what its sites before the first
malformed one leave, were they a method of their own, except that no
dialog is handed over and that the call at the malformed site counts as
made. The failing site itself has done nothing but record that call, in
whatever state it was come to. -/
theorem failure_keeps_good_part (a : Assembler σ) {t : Task σ} {before : List σ} {s : σ}
    {e : Error} (hbefore : t.query.WellFormed before) (hs : t.query.Malformed s e)
    (after : List σ) :
    let good := a.assembleMethod t before
    let failed := a.assembleMethod t (before ++ s :: after)
    (∀ w : Work σ, w.stepM .running t s = .error (e, w.noteCall t s)) ∧
      (∃ stats, good.result = .ok stats) ∧ failed.result = .error e ∧
      failed.assembler = { good.assembler.attributeCall t s with dialogs := a.dialogs } := by
  intro good failed
  obtain ⟨stats, hgood, -⟩ := assembleMethod_of_wellFormed (a := a) hbefore
  have hfailed : failed.result = .error e :=
    assembleMethod_of_failsWith ⟨before, s, after, rfl, hbefore, hs⟩
  refine ⟨Work.stepM_of_malformed hs, ⟨stats, hgood⟩, hfailed, ?_⟩
  rw [assembler_of_malformed a hbefore hs, assembler_of_wellFormed a hbefore,
    ← (untouched_run a t before).dialogs]
  exact (attributeCall_addDialogs _ t s t.origin _).symm

/-- The box is shown, then something is looked up and the result is not
kept. The box stays, and the lookup counts as a call of the screen. -/
theorem failure_keeps_good_part_labelledBox :
    let t := Task.straightLine
      ["void setContentView(int)", "android.view.View findViewById(int)"]
    let e := Error.malformedIdiom "call 1" "void onCreate()" "idiom must be an assignment"
    let good := labelledBox.assembleMethod t [0]
    let failed := labelledBox.assembleMethod t [0, 1, 0]
    t.query.WellFormed [0] ∧ t.query.Malformed 1 e ∧ good.assembler.scene.size = 4 ∧
      failed.assembler.attribution.callsOf t.origin =
        ["void setContentView(int)", "android.view.View findViewById(int)"] ∧
      (∀ w : Work Nat, w.stepM .running t 1 = .error (e, w.noteCall t 1)) ∧
      (∃ stats, good.result = .ok stats) ∧ failed.result = .error e ∧
      failed.assembler =
        { good.assembler.attributeCall t 1 with dialogs := labelledBox.dialogs } := by
  intro t e good failed
  have hbefore : t.query.WellFormed [0] := by decide +kernel
  have hs : t.query.Malformed 1 e := .construction (by decide +kernel) rfl
  exact ⟨hbefore, hs, by decide +kernel, by decide +kernel,
    failure_keeps_good_part labelledBox hbefore hs [0]⟩

end Assembler

end UiRecovery
