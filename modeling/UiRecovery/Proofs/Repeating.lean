import UiRecovery.Proofs.Merging
import UiRecovery.Proofs.Settling
import UiRecovery.Proofs.Skipping

/-!
# Assembling a method again

Methods are shared between components and between calls of the assembler,
so it matters what a second assembly of the same method does. Most of what
code says settles: a place keeps the widget that it got, a child is
attached once, evidence that is known changes nothing. So for a method of
`Plain` sites the second assembly finds everything in place
(`reassembly_idempotent`).

The other sites are left out for a reason. A layout is copied afresh, and
a fragment added afresh, each time its site is met. A lookup and a child
taken by position depend on what the containers hold, which may be more
the second time.
-/

namespace UiRecovery

namespace Query

variable {σ : Type}

/-- The site neither looks a widget up, nor makes one that no place in the
code stands for. -/
structure Plain (q : Query σ) (s : σ) : Prop where
  noLookup : q.isFindViewById s = false
  noChild : q.isGetChildAt s = false
  noInflate : q.isInflate s = false
  noLayout : q.callSignature s ≠ some Toolkit.showLayout
  noFragment : ∀ signature ∈ Toolkit.fragmentTransaction, q.callSignature s ≠ some signature

end Query

/-- The actions of plain sites. -/
def Action.Settled {σ : Type} : Action σ → Prop
  | .lookup .. | .childAt _ | .inflate _ | .showLayout | .fragment _ => False
  | _ => True

namespace Query

variable {σ : Type} {q : Query σ} {s : σ}

theorem Plain.settled_callAction (hs : q.Plain s) {signature : String}
    (hcall : q.callSignature s = some signature) : (callAction signature : Action σ).Settled := by
  unfold callAction
  split
  · rename_i heq
    exact absurd (heq ▸ hcall) hs.noLayout
  · split
    · trivial
    · split
      · trivial
      · split
        · rename_i hmem
          exact absurd hcall (hs.noFragment signature (by simpa using hmem))
        · trivial

variable [DecidableEq σ]

theorem Plain.action (hs : q.Plain s) : ∃ a, q.action s = .ok a ∧ a.Settled := by
  obtain ⟨hlookup, hchild, hinflate⟩ : q.dispatch s ≠ some .findViewById ∧
      q.dispatch s ≠ some .getChildAt ∧ q.dispatch s ≠ some .inflate := by
    unfold dispatch
    rw [hs.noLookup, hs.noChild, hs.noInflate]
    grind
  unfold Query.action
  generalize q.dispatch s = idiom at hlookup hchild hinflate
  cases hcall : q.callSignature s with
  | none =>
      cases idiom with
      | none => exact ⟨_, rfl, trivial⟩
      | some idiom =>
          cases idiom with
          | findViewById => exact absurd rfl hlookup
          | getChildAt => exact absurd rfl hchild
          | _ => exact ⟨_, rfl, trivial⟩
  | some signature =>
      cases idiom with
      | none => exact ⟨_, rfl, hs.settled_callAction hcall⟩
      | some idiom =>
          cases idiom with
          | findViewById => exact absurd rfl hlookup
          | getChildAt => exact absurd rfl hchild
          | inflate => exact absurd rfl hinflate
          | _ => exact ⟨_, rfl, trivial⟩

theorem Plain.not_malformed (hs : q.Plain s) (e : Error) : ¬q.Malformed s e := by
  obtain ⟨a, haction, -⟩ := hs.action
  intro hbad
  rw [hbad.action_eq_error] at haction
  cases haction

end Query

namespace Work

variable {σ : Type} [DecidableEq σ] {t : Task σ} {w : Work σ}

/-! ## What actions read -/

omit [DecidableEq σ] in
theorem SameNames.containerArg {v : Work σ} (h : SameNames w v) (s : σ) (params : List String) :
    v.containerArg t s params = w.containerArg t s params := by
  unfold Work.containerArg
  split
  · exact h.bound _
  · rfl

theorem Ready.containerArg (hw : w.Ready) (s : σ) (params : List String) :
    ∀ h ∈ w.containerArg t s params, h < w.scene.size := by
  intro h hh
  unfold Work.containerArg at hh
  split at hh
  · exact hw.locals _ h hh
  · cases hh

/-- The classes of widgets stay, so a setter has the same targets. -/
theorem setterTargets_congr (hw : w.Ready) {v : Work σ} (hsame : SameNames w v)
    (hkeep : w.toAssembler.Keeps v.toAssembler) (s : σ) :
    v.setterTargets t s = w.setterTargets t s := by
  rw [setterTargets_eq, setterTargets_eq, hsame.bound, hkeep.settings]
  apply List.filter_congr
  intro h hh
  rw [hkeep.scene.className_widget (hw.locals _ h hh)]

/-! ## Actions -/

theorem settles_allocate (hw : w.Ready) (s : σ) (className : String) :
    Settles (fun w => w.allocate t s className) w := by
  by_cases hdialog : w.settings.isDialogBuilder className = true
  · refine (settles_newDraft hw (t.query.definedLocal s)).congr ?_
    intro v _ hkeep
    rw [allocate_eq, hkeep.settings, if_pos hdialog]
  · by_cases hwidget : w.settings.isWidgetClass className = true
    · refine (settles_allocation hw s className (fun w => w.kindOf className)
        (k := fun h w => ((w.nameAfter h (t.query.definedLocal s)).tag t.origin h).bindLocal
          (t.query.definedLocal s) [h]) ?_).congr ?_
      · intro h v hv hh
        have hname := settles_nameAfter hv hh (t.query.definedLocal s)
        have htag := hname.comp (settles_quiet hname.ready fun _ => quiet_tag t.origin h)
        exact htag.comp (settles_bindOne htag.ready _ (hh.trans_eq (size_nameAfter v h _).symm))
      · intro v _ hkeep
        rw [allocate_eq, hkeep.settings, if_neg hdialog, if_pos hwidget]
    · refine (settles_unbindLocal hw (t.query.definedLocal s)).congr ?_
      intro v _ hkeep
      rw [allocate_eq, hkeep.settings, if_neg hdialog, if_neg hwidget]

theorem settles_listView (hw : w.Ready) (s : σ) : Settles (fun w => w.listView t s) w := by
  refine settles_allocation hw s Toolkit.listClass (fun _ => .group [])
    (k := fun h w => (w.tag t.origin h).bindLocal (t.query.definedLocal s) [h]) ?_
  intro h v hv hh
  have htag : Settles (fun w => w.tag t.origin h) v :=
    settles_quiet hv fun _ => quiet_tag t.origin h
  exact htag.comp (settles_bindOne htag.ready _ hh)

theorem settles_adapterRow (hw : w.Ready) (s : σ) (signature : String) :
    Settles (fun w => w.adapterRow t s signature) w := by
  refine settles_allocation hw s Toolkit.viewClass (fun _ => .view)
    (k := fun h w => ((w.tag t.origin h).attachAll
      ((w.tag t.origin h).containerArg t s (Signature.callParams signature)) [h]).bindLocal
        (t.query.definedLocal s) [h]) ?_
  intro h v hv hh
  have htag : Settles (fun w => w.tag t.origin h) v :=
    settles_quiet hv fun _ => quiet_tag t.origin h
  have hattach := htag.comp (settles_attachAll htag.ready
    (htag.ready.containerArg (t := t) s (Signature.callParams signature)) [h])
  have hbind := hattach.comp (settles_bindOne hattach.ready (t.query.definedLocal s)
    (hh.trans_eq (size_attachAll (v.tag t.origin h) _ [h]).symm))
  refine hbind.congr ?_
  intro u hsame _
  have htagged : SameNames (v.tag t.origin h) (u.tag t.origin h) :=
    ⟨hsame.locals, hsame.draftLocals, hsame.drafts⟩
  rw [htagged.containerArg]

theorem settles_addView (hw : w.Ready) (s : σ) : Settles (fun w => w.addView t s) w := by
  refine (settles_attachAll hw (hw.locals (t.query.receiver s))
    (w.bound (t.query.argLocal s 0))).congr ?_
  intro v hsame _
  rw [addView_eq, hsame.bound, hsame.bound]

theorem settles_showWidget (hw : w.Ready) (s : σ) : Settles (fun w => w.showWidget t s) w := by
  have hshow := hw.locals (t.query.argLocal s 0)
  generalize hhs : w.bound (t.query.argLocal s 0) = hs at hshow
  have htag : Settles (fun w => hs.foldl (fun w h => w.tagTree t.origin h) w) w :=
    settles_quiet hw (quiet_tagTrees t.origin hs)
  have hroots := htag.comp (settles_addRoots htag.ready t.origin hs)
  have hshown : ∀ x ∈ hs, x < ((hs.foldl (fun w h => w.tagTree t.origin h) w).addRoots t.origin
      hs).scene.size := by
    intro x hx
    rw [scene_addRoots, (quiet_tagTrees t.origin hs w).still.size]
    exact hshow x hx
  refine (hroots.comp (settles_bindLocal hroots.ready (t.query.receiver s) hshown)).congr ?_
  intro v hsame _
  rw [showWidget_eq, hsame.bound, hhs]

/-- What a setter does to the widgets that it is for, as findings. -/
def setOn (t : Task σ) (s : σ) (signature : String) (targets : List Nat) (w : Work σ) : Work σ :=
  match Setter.ofSignature? signature with
  | none => w
  | some (.text attr) =>
    (w.askLabels t (.arg 0) s).2.modifyWidgets targets
      (·.recordAll ((t.oracle (.arg 0) s).labels.map fun v => .text (Attr.dynamic attr v)))
  | some .listener =>
    (w.askLabels t (.arg 0) s).2.modifyWidgets targets
      (·.recordAll ((t.oracle (.arg 0) s).labels.map .listener))
  | some .inputType =>
    (w.askInts t (.arg 0) s).2.modifyWidgets targets
      (·.recordAll (((t.oracle (.arg 0) s).ints.filterMap word32?).map .mask))
  | some .image =>
    (w.askLabels t (.arg 0) s).2.modifyWidgets targets
      (·.recordAll ((t.oracle (.arg 0) s).labels.map .image))

omit [DecidableEq σ] in
theorem setterCall_eq_setOn (w : Work σ) (s : σ) (signature : String) :
    w.setterCall t s signature =
      if (w.setterTargets t s).isEmpty then w
      else w.setOn t s signature (w.setterTargets t s) := by
  rw [setterCall_eq]
  unfold setOn
  cases Setter.ofSignature? signature with
  | none => rfl
  | some setter =>
      cases setter <;>
        simp only [fst_askLabels, fst_askInts, Widget.recordAll, List.foldl_map] <;> rfl

theorem settles_setOn (hw : w.Ready) (s : σ) (signature : String) {targets : List Nat}
    (htargets : ∀ h ∈ targets, h < w.scene.size) :
    Settles (fun w => w.setOn t s signature targets) w := by
  have hlabels : ∀ xs : List Finding, Settles (fun w =>
      (w.askLabels t (.arg 0) s).2.modifyWidgets targets (·.recordAll xs)) w := by
    intro xs
    have hask : Settles (fun w => (w.askLabels t (.arg 0) s).2) w :=
      settles_quiet hw fun _ => quiet_askLabels (.arg 0) s
    exact hask.comp (settles_modifyWidgets hask.ready (by simpa using htargets) xs)
  have hints : ∀ xs : List Finding, Settles (fun w =>
      (w.askInts t (.arg 0) s).2.modifyWidgets targets (·.recordAll xs)) w := by
    intro xs
    have hask : Settles (fun w => (w.askInts t (.arg 0) s).2) w :=
      settles_quiet hw fun _ => quiet_askInts (.arg 0) s
    exact hask.comp (settles_modifyWidgets hask.ready (by simpa using htargets) xs)
  unfold setOn
  cases Setter.ofSignature? signature with
  | none => exact settles_id hw
  | some setter =>
      cases setter with
      | text attr => exact hlabels _
      | listener => exact hlabels _
      | inputType => exact hints _
      | image => exact hlabels _

theorem settles_setterCall (hw : w.Ready) (s : σ) (signature : String) :
    Settles (fun w => w.setterCall t s signature) w := by
  by_cases hempty : (w.setterTargets t s).isEmpty = true
  · refine (settles_id hw).congr ?_
    intro v hsame hkeep
    rw [setterCall_eq_setOn, setterTargets_congr hw hsame hkeep, if_pos hempty]
  · have htargets : ∀ h ∈ w.setterTargets t s, h < w.scene.size :=
      fun h hh => hw.locals _ h (List.mem_of_mem_filter (setterTargets_eq t s w ▸ hh))
    refine (settles_setOn (t := t) hw s signature htargets).congr ?_
    intro v hsame hkeep
    rw [setterCall_eq_setOn, setterTargets_congr hw hsame hkeep, if_neg hempty]

theorem settles_call (hw : w.Ready) (s : σ) (signature : String) :
    Settles (fun w => w.call t s signature) w := by
  have hdraft : ∀ v : Work σ, SameNames w v →
      v.draftOf? (t.query.receiver s) = w.draftOf? (t.query.receiver s) := by
    intro v hsame
    unfold draftOf?
    rw [hsame.draftLocals]
  cases hof : w.draftOf? (t.query.receiver s) with
  | none =>
      refine (settles_setterCall (t := t) hw s signature).congr ?_
      intro v hsame _
      rw [call_eq, hdraft v hsame, hof]
  | some draft =>
      have hbind := settles_bindDraft hw (t.query.definedLocal s) draft
      refine (hbind.of_quiet fun _ => quiet_dialogCall s signature draft).congr ?_
      intro v hsame _
      rw [call_eq, hdraft v hsame, hof]

/-! ## Runs -/

theorem settles_perform (hw : w.Ready) (s : σ) {a : Action σ} (ha : a.Settled) :
    Settles (fun w => w.perform t s a) w := by
  cases a with
  | await => exact settles_id hw
  | clear => exact settles_unbindLocal hw _
  | allocate className => exact settles_allocate hw s className
  | addView => exact settles_addView hw s
  | adapterRow signature => exact settles_adapterRow hw s signature
  | listView => exact settles_listView hw s
  | showWidget => exact settles_showWidget hw s
  | inflateMenu => exact settles_quiet hw fun _ => quiet_inflateMenu s
  | call signature => exact settles_call hw s signature
  | nothing => exact settles_id hw
  | lookup | childAt | inflate | showLayout | fragment => exact ha.elim

theorem settles_step (hw : w.Ready) {s : σ} (hs : t.query.Plain s) :
    Settles (fun w => (w.step t s).1) w := by
  obtain ⟨a, haction, ha⟩ := hs.action
  have hnote : Settles (fun w => w.noteCall t s) w := settles_quiet hw fun _ => quiet_noteCall s
  refine (hnote.comp (settles_perform (t := t) hnote.ready s ha)).congr ?_
  intro v _ _
  rw [step_of_action haction]

theorem settles_run {sites : List σ} (hsites : ∀ s ∈ sites, t.query.Plain s) :
    ∀ {w : Work σ}, w.Ready → Settles (fun w => (run t sites w).1) w := by
  induction sites with
  | nil =>
      intro w hw
      exact settles_id hw
  | cons s rest ih =>
      intro w hw
      have hs := hsites s List.mem_cons_self
      have hstep := settles_step hw hs
      have hrest := ih (fun x hx => hsites x (List.mem_cons_of_mem s hx)) hstep.ready
      refine (hstep.comp hrest).congr ?_
      intro v _ _
      rw [run_cons_of_not_malformed hs.not_malformed]

end Work

namespace Assembler

variable {σ : Type} [DecidableEq σ]

theorem Reachable.ready {a : Assembler σ} (ha : a.Reachable) (t : Task σ) (sites : List σ) :
    (a.begin t sites).Ready := by
  refine ⟨fun key h hget => (ha.merges.range key h hget).2, ?_⟩
  intro name h hh
  cases name with
  | none => cases hh
  | some name => cases hh

omit [DecidableEq σ] in
theorem still_addDialogs (a : Assembler σ) (o : Origin) (drafts : List Dialog) :
    a.Still (a.addDialogs o drafts) :=
  ⟨rfl, rfl, rfl, rfl, rfl⟩

/-- Assemble a method of plain sites and then assemble it again. Both
attempts succeed, and the second leaves the widgets with all that is known
of them, the table of places, the screens and the next id as they are. -/
theorem reassembly_idempotent {a : Assembler σ} (ha : a.Reachable) (t : Task σ) (sites : List σ)
    (hsites : ∀ s ∈ sites, t.query.Plain s) :
    let once := a.assembleMethod t sites
    let twice := once.assembler.assembleMethod t sites
    (∃ stats, once.result = .ok stats) ∧ (∃ stats, twice.result = .ok stats) ∧
      twice.assembler.scene.widgets = once.assembler.scene.widgets ∧
      twice.assembler.merged = once.assembler.merged ∧
      twice.assembler.roots = once.assembler.roots ∧
      twice.assembler.nextDynamicId = once.assembler.nextDynamicId := by
  intro once twice
  have hwell : t.query.WellFormed sites := fun s hs => (hsites s hs).not_malformed
  obtain ⟨stats, hstats, -⟩ := a.assembleMethod_of_wellFormed hwell
  obtain ⟨stats', hstats', -⟩ := once.assembler.assembleMethod_of_wellFormed hwell
  have honce : once.assembler = _ := a.assembler_of_wellFormed hwell
  have htwice : twice.assembler = _ := once.assembler.assembler_of_wellFormed hwell
  -- Between the two runs the dialogs are put away and the locals forgotten.
  have hsettles := Work.settles_run hsites (ha.ready t sites)
  have hkeep : (Work.run t sites (a.begin t sites)).1.toAssembler.Keeps once.assembler := by
    rw [honce]
    exact (still_addDialogs _ _ _).keeps
  have hagain := (hsettles.again (once.assembler.begin t sites) ⟨rfl, rfl, rfl⟩ hkeep).1
  have hstill : once.assembler.Still twice.assembler := by
    rw [htwice]
    exact hagain.trans (still_addDialogs _ _ _)
  exact ⟨⟨stats, hstats⟩, ⟨stats', hstats'⟩, hstill.widgets, hstill.merged, hstill.roots,
    hstill.nextDynamicId⟩

/-- A list is given an image, refused as its own child, and shown. -/
theorem reassembly_idempotent_labelledBox :
    let t : Task Nat := .straightLine ["android.widget.ListView getListView()",
      "void setImageResource(int)", "void addView(android.view.View)",
      "void setContentView(android.view.View)"]
    let once := labelledBox.assembleMethod t [0, 1, 2, 3]
    let twice := once.assembler.assembleMethod t [0, 1, 2, 3]
    labelledBox.Reachable ∧ (∀ s ∈ [0, 1, 2, 3], t.query.Plain s) ∧
      (once.assembler.scene.size = 3 ∧ (once.assembler.scene.widget 2).hasImage "100" = true ∧
        (once.assembler.roots.get? t.origin).map OrderedSet.toList = some [2]) ∧
      (∃ stats, once.result = .ok stats) ∧ (∃ stats, twice.result = .ok stats) ∧
      twice.assembler.scene.widgets = once.assembler.scene.widgets ∧
      twice.assembler.merged = once.assembler.merged ∧
      twice.assembler.roots = once.assembler.roots ∧
      twice.assembler.nextDynamicId = once.assembler.nextDynamicId := by
  intro t
  have hplain : ∀ s ∈ [0, 1, 2, 3], t.query.Plain s := by
    intro s hs
    have hcases : s = 0 ∨ s = 1 ∨ s = 2 ∨ s = 3 := by simpa using hs
    rcases hcases with rfl | rfl | rfl | rfl
    all_goals constructor <;> decide +kernel
  have hrun : let m := labelledBox.assembleMethod t [0, 1, 2, 3]
      m.assembler.scene.size = 3 ∧ (m.assembler.scene.widget 2).hasImage "100" = true ∧
        (m.assembler.roots.get? t.origin).map OrderedSet.toList = some [2] := by
    decide +kernel
  have hsame := reassembly_idempotent prepared_labelledBox.reachable t [0, 1, 2, 3] hplain
  exact ⟨prepared_labelledBox.reachable, hplain, hrun, hsame⟩

end Assembler

end UiRecovery
