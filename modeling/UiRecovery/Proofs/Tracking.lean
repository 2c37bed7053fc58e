import UiRecovery.Proofs.Roots

/-!
# Recording calls changes nothing else

The settings say whether each call is recorded as used by the component
for which it was met. `Assembler.untracked` forgets the record and turns
recording off, and every operation of the work commutes with it: none reads
the record, and none but `noteCall` looks at the setting. So two recoveries
that differ in the setting run side by side, and what they leave differs
in the record only (`tracking_adds_calls_only`).

Closing a recovery needs an argument of its own. It goes through the
origins of all attributions, those of calls included, but an origin that
is known from calls alone has no widgets and adds no roots, not even an
empty entry (`foldl_closeOrigin_untracked`).
-/

namespace UiRecovery

/-- The attributions of widgets alone. -/
def Attribution.withoutCalls (t : Attribution) : Attribution := { t with calls := ∅ }

namespace Assembler

variable {σ : Type}

/-- The same assembler, that records calls or does not. -/
def tracking (a : Assembler σ) (on : Bool) : Assembler σ :=
  { a with settings := { a.settings with trackCalls := on } }

/-- What the assembler would be if no call had been recorded. -/
def untracked (a : Assembler σ) : Assembler σ :=
  { a.tracking false with attribution := a.attribution.withoutCalls }

end Assembler

namespace Work

variable {σ : Type}

def untracked (w : Work σ) : Work σ := { w with toAssembler := w.toAssembler.untracked }

/-! ## Elementary steps -/

theorem scene_untracked (w : Work σ) : w.untracked.scene = w.scene := rfl

theorem bound_untracked (w : Work σ) (name : Option String) :
    w.untracked.bound name = w.bound name := rfl

theorem tag_untracked (w : Work σ) (o : Origin) (h : Nat) :
    w.untracked.tag o h = (w.tag o h).untracked := rfl

theorem bindLocal_untracked (w : Work σ) (name : Option String) (hs : List Nat) :
    w.untracked.bindLocal name hs = (w.bindLocal name hs).untracked := by
  cases name <;> rfl

theorem unbindLocal_untracked (w : Work σ) (name : Option String) :
    w.untracked.unbindLocal name = (w.unbindLocal name).untracked := by
  cases name <;> rfl

theorem bindDraft_untracked (w : Work σ) (name : Option String) (draft : Nat) :
    w.untracked.bindDraft name draft = (w.bindDraft name draft).untracked := by
  cases name <;> rfl

theorem askInts_untracked (w : Work σ) (t : Task σ) (ref : ValueRef) (s : σ) :
    w.untracked.askInts t ref s = ((w.askInts t ref s).1, (w.askInts t ref s).2.untracked) := by
  unfold askInts
  dsimp only
  split <;> rfl

theorem askLabels_untracked (w : Work σ) (t : Task σ) (ref : ValueRef) (s : σ) :
    w.untracked.askLabels t ref s =
      ((w.askLabels t ref s).1, (w.askLabels t ref s).2.untracked) := by
  unfold askLabels
  dsimp only
  split <;> rfl

theorem askIntsAt_untracked (w : Work σ) (t : Task σ) (position : Option Nat) (s : σ) :
    w.untracked.askIntsAt t position s =
      ((w.askIntsAt t position s).1, (w.askIntsAt t position s).2.untracked) := by
  cases position with
  | none => rfl
  | some i => exact w.askInts_untracked t (.arg i) s

theorem askLabelsAt_untracked (w : Work σ) (t : Task σ) (position : Option Nat) (s : σ) :
    w.untracked.askLabelsAt t position s =
      ((w.askLabelsAt t position s).1, (w.askLabelsAt t position s).2.untracked) := by
  cases position with
  | none => rfl
  | some i => exact w.askLabels_untracked t (.arg i) s

theorem nameAfter_untracked (w : Work σ) (h : Nat) (name : Option String) :
    w.untracked.nameAfter h name = (w.nameAfter h name).untracked := by
  cases name <;> rfl

theorem addRoots_untracked (w : Work σ) (o : Origin) (hs : List Nat) :
    w.untracked.addRoots o hs = (w.addRoots o hs).untracked := by
  unfold addRoots
  split <;> rfl

theorem attach_untracked (w : Work σ) (parent child : Nat) :
    w.untracked.attach parent child = (w.attach parent child).untracked := by
  rw [attach_eq, attach_eq, scene_untracked]
  split
  · rfl
  · split <;> rfl

/-! ## Loops -/

theorem foldl_untracked {α : Type} {step : Work σ → α → Work σ}
    (hstep : ∀ w a, step w.untracked a = (step w a).untracked) :
    ∀ (as : List α) (w : Work σ), as.foldl step w.untracked = (as.foldl step w).untracked
  | [], _ => rfl
  | a :: as, w => by
      rw [List.foldl_cons, hstep, foldl_untracked hstep as]
      rfl

theorem collect_untracked {α : Type} {step : Work σ → α → Nat × Work σ}
    (hstep : ∀ w a, step w.untracked a = ((step w a).1, (step w a).2.untracked)) :
    ∀ (as : List α) (w : Work σ),
      collect step as w.untracked = ((collect step as w).1, (collect step as w).2.untracked)
  | [], _ => rfl
  | a :: as, w => by
      rw [collect_cons, collect_cons, hstep]
      dsimp only
      rw [collect_untracked hstep as]

theorem collectAll_untracked {α : Type} {step : Work σ → α → List Nat × Work σ}
    (hstep : ∀ w a, step w.untracked a = ((step w a).1, (step w a).2.untracked)) :
    ∀ (as : List α) (w : Work σ),
      collectAll step as w.untracked =
        ((collectAll step as w).1, (collectAll step as w).2.untracked)
  | [], _ => rfl
  | a :: as, w => by
      rw [collectAll_cons, collectAll_cons, hstep]
      dsimp only
      rw [collectAll_untracked hstep as]

theorem modifyWidgets_untracked (w : Work σ) (hs : List Nat) (f : Widget → Widget) :
    w.untracked.modifyWidgets hs f = (w.modifyWidgets hs f).untracked := by
  rw [modifyWidgets_eq, modifyWidgets_eq]
  exact foldl_untracked (fun _ _ => rfl) hs w

theorem tagTree_untracked (w : Work σ) (o : Origin) (h : Nat) :
    w.untracked.tagTree o h = (w.tagTree o h).untracked := by
  rw [tagTree_eq, tagTree_eq]
  exact foldl_untracked (fun _ _ => rfl) (w.scene.depthFirst h) w

theorem attachAll_untracked (w : Work σ) (parents children : List Nat) :
    w.untracked.attachAll parents children = (w.attachAll parents children).untracked := by
  rw [attachAll_eq, attachAll_eq]
  exact foldl_untracked
    (fun w p => foldl_untracked (fun w c => w.attach_untracked p c) children w) parents w

theorem materialize_untracked (o : Origin) (w : Work σ) (layoutId : Int64) :
    materialize o w.untracked layoutId =
      ((materialize o w layoutId).1, (materialize o w layoutId).2.untracked) := by
  rw [materialize_eq, materialize_eq, show w.untracked.layouts = w.layouts from rfl]
  cases (word32? layoutId).bind w.layouts.get? with
  | none => rfl
  | some layout =>
      dsimp only
      rw [collect_untracked (fun _ _ => rfl)]
      dsimp only
      rw [foldl_untracked fun w c => w.tagTree_untracked o c]

/-! ## Actions -/

section

variable (t : Task σ) (s : σ) (w : Work σ)

theorem childAt_untracked (call : σ) :
    w.untracked.childAt t s call = (w.childAt t s call).untracked := by
  rw [childAt_eq, childAt_eq]
  dsimp only
  rw [bindLocal_untracked, bindLocal_untracked]
  rfl

theorem inflate_untracked (signature : String) :
    w.untracked.inflate t s signature = (w.inflate t s signature).untracked := by
  rw [inflate_eq, inflate_eq]
  dsimp only
  split
  · rfl
  · rw [askInts_untracked]
    dsimp only
    rw [collectAll_untracked (materialize_untracked t.origin)]
    dsimp only
    split
    · rw [attachAll_untracked, bindLocal_untracked]
      rfl
    · rw [bindLocal_untracked]

theorem showLayout_untracked : w.untracked.showLayout t s = (w.showLayout t s).untracked := by
  rw [showLayout_eq, showLayout_eq, askInts_untracked]
  dsimp only
  rw [collectAll_untracked (materialize_untracked t.origin)]
  dsimp only
  rw [addRoots_untracked, bindLocal_untracked]

theorem addView_untracked : w.untracked.addView t s = (w.addView t s).untracked :=
  attachAll_untracked w _ _

theorem showWidget_untracked : w.untracked.showWidget t s = (w.showWidget t s).untracked := by
  rw [showWidget_eq, showWidget_eq]
  dsimp only
  rw [bound_untracked, foldl_untracked fun w h => w.tagTree_untracked t.origin h,
    addRoots_untracked, bindLocal_untracked]

theorem showMenu_untracked (type : MenuType) (id : Int64) :
    showMenu t type w.untracked id = (showMenu t type w id).untracked := by
  unfold showMenu
  rw [show w.untracked.menuTemplates = w.menuTemplates from rfl]
  cases (word32? id).bind w.menuTemplates.get? <;> rfl

theorem inflateMenu_untracked : w.untracked.inflateMenu t s = (w.inflateMenu t s).untracked := by
  unfold inflateMenu
  rw [askInts_untracked]
  exact foldl_untracked (fun w id => showMenu_untracked t w _ id) _ _

theorem addFragment_untracked (tag : String) (containers : List Nat) (className : String) :
    addFragment t tag containers w.untracked className =
      (addFragment t tag containers w className).untracked := by
  rw [addFragment_eq, addFragment_eq]
  dsimp only
  rw [← attachAll_untracked]
  rfl

theorem slotContainers_untracked (ids : List Int64) :
    w.untracked.slotContainers t ids = w.slotContainers t ids := rfl

theorem fragment_untracked (signature : String) :
    w.untracked.fragment t s signature = (w.fragment t s signature).untracked := by
  rw [fragment_eq, fragment_eq]
  dsimp only
  split
  · rfl
  · rw [askLabels_untracked]
    dsimp only
    rw [askLabelsAt_untracked]
    dsimp only
    rw [askIntsAt_untracked]
    dsimp only
    rw [slotContainers_untracked]
    exact foldl_untracked (fun w c => addFragment_untracked t w _ _ c) _ _

theorem dialogCall_untracked (signature : String) (draft : Nat) :
    w.untracked.dialogCall t s signature draft =
      (w.dialogCall t s signature draft).untracked := by
  unfold dialogCall
  dsimp only
  rw [← bindDraft_untracked]
  congr 1
  split
  · rw [askLabels_untracked]
    rfl
  split
  · rw [askLabels_untracked]
    rfl
  split
  · rw [askLabels_untracked]
    rfl
  split
  · split
    · rfl
    · rw [askLabels_untracked]
      dsimp only
      rw [askLabels_untracked]
      rfl
  · rfl

theorem setterCall_untracked (signature : String) :
    w.untracked.setterCall t s signature = (w.setterCall t s signature).untracked := by
  have htargets : w.untracked.setterTargets t s = w.setterTargets t s := rfl
  rw [setterCall_eq, setterCall_eq]
  dsimp only
  rw [htargets]
  split
  · rfl
  · split
    · rfl
    · rw [askLabels_untracked]
      exact modifyWidgets_untracked _ _ _
    · rw [askLabels_untracked]
      exact modifyWidgets_untracked _ _ _
    · rw [askInts_untracked]
      exact modifyWidgets_untracked _ _ _
    · rw [askLabels_untracked]
      exact modifyWidgets_untracked _ _ _

theorem call_untracked (signature : String) :
    w.untracked.call t s signature = (w.call t s signature).untracked := by
  rw [call_eq, call_eq,
    show w.untracked.draftOf? (t.query.receiver s) = w.draftOf? (t.query.receiver s) from rfl]
  cases w.draftOf? (t.query.receiver s) with
  | some draft => exact dialogCall_untracked t s w signature draft
  | none => exact setterCall_untracked t s w signature

variable [DecidableEq σ]

theorem mergedOr_untracked (key : MergeKey σ) {create : Work σ → Nat × Work σ}
    (hcreate : create w.untracked = ((create w).1, (create w).2.untracked)) :
    w.untracked.mergedOr key create =
      ((w.mergedOr key create).1, (w.mergedOr key create).2.untracked) := by
  unfold mergedOr
  rw [show w.untracked.merged = w.merged from rfl]
  cases w.merged.get? key with
  | some h => rfl
  | none =>
      dsimp only
      rw [hcreate]
      rfl

theorem lookupOne_untracked (className : String) (containers : List Nat) (id : Int32) :
    lookupOne t s className containers w.untracked id =
      ((lookupOne t s className containers w id).1,
        (lookupOne t s className containers w id).2.untracked) := by
  rw [lookupOne_eq, lookupOne_eq, scene_untracked]
  cases containers.findSome? fun c => w.scene.find? c id with
  | some h =>
      dsimp only
      rw [nameAfter_untracked, tag_untracked]
  | none =>
      dsimp only
      rw [mergedOr_untracked w _ rfl]
      dsimp only
      rw [nameAfter_untracked, tag_untracked]

theorem lookup_untracked (call : σ) (className : String) :
    w.untracked.lookup t s call className = (w.lookup t s call className).untracked := by
  rw [lookup_eq, lookup_eq, askInts_untracked]
  dsimp only
  rw [collect_untracked fun w id => lookupOne_untracked t s w className _ id]
  dsimp only
  rw [bindLocal_untracked, bindLocal_untracked]
  rfl

theorem allocate_untracked (className : String) :
    w.untracked.allocate t s className = (w.allocate t s className).untracked := by
  have hbuilder : w.untracked.settings.isDialogBuilder className =
      w.settings.isDialogBuilder className := rfl
  have hwidget : w.untracked.settings.isWidgetClass className =
      w.settings.isWidgetClass className := rfl
  rw [allocate_eq, allocate_eq]
  dsimp only
  rw [hbuilder, hwidget]
  split
  · exact bindDraft_untracked { w with drafts := w.drafts ++ [({} : Dialog)] } _ _
  · split
    · rw [mergedOr_untracked w _ rfl]
      dsimp only
      rw [nameAfter_untracked, tag_untracked, bindLocal_untracked]
    · exact unbindLocal_untracked w _

theorem listView_untracked : w.untracked.listView t s = (w.listView t s).untracked := by
  rw [listView_eq, listView_eq, mergedOr_untracked w _ rfl]
  dsimp only
  rw [tag_untracked, bindLocal_untracked]

theorem adapterRow_untracked (signature : String) :
    w.untracked.adapterRow t s signature = (w.adapterRow t s signature).untracked := by
  rw [adapterRow_eq, adapterRow_eq, mergedOr_untracked w _ rfl]
  dsimp only
  rw [tag_untracked, attachAll_untracked, bindLocal_untracked]
  rfl

/-- No action sees whether calls are recorded. -/
theorem perform_untracked (a : Action σ) :
    w.untracked.perform t s a = (w.perform t s a).untracked := by
  cases a with
  | await => rfl
  | lookup call className => exact lookup_untracked t s w call className
  | childAt call => exact childAt_untracked t s w call
  | clear => exact unbindLocal_untracked w _
  | allocate className => exact allocate_untracked t s w className
  | inflate signature => exact inflate_untracked t s w signature
  | addView => exact addView_untracked t s w
  | adapterRow signature => exact adapterRow_untracked t s w signature
  | listView => exact listView_untracked t s w
  | showLayout => exact showLayout_untracked t s w
  | showWidget => exact showWidget_untracked t s w
  | inflateMenu => exact inflateMenu_untracked t s w
  | fragment signature => exact fragment_untracked t s w signature
  | call signature => exact call_untracked t s w signature
  | nothing => rfl

end

/-! ## Runs -/

/-- Whether the call at a site is recorded or not, the rest is the same. -/
theorem noteCall_untracked (t : Task σ) (s : σ) (w : Work σ) :
    w.untracked.noteCall t s = (w.noteCall t s).untracked := by
  have hoff : w.untracked.noteCall t s = w.untracked := rfl
  rw [hoff]
  unfold noteCall
  split
  · split <;> rfl
  · rfl

variable [DecidableEq σ]

theorem step_untracked (t : Task σ) (w : Work σ) (s : σ) :
    w.untracked.step t s = ((w.step t s).1.untracked, (w.step t s).2) := by
  rw [step_eq, step_eq, noteCall_untracked]
  cases t.query.action s with
  | error e => rfl
  | ok a =>
      dsimp only
      rw [perform_untracked]

theorem run_untracked (t : Task σ) : ∀ (sites : List σ) (w : Work σ),
    run t sites w.untracked = ((run t sites w).1.untracked, (run t sites w).2)
  | [], _ => rfl
  | s :: rest, w => by
      rw [run, run, step_untracked]
      cases hstep : w.step t s with
      | mk w' failure =>
          cases failure with
          | none => exact run_untracked t rest w'
          | some e => rfl

end Work

/-! ## Methods -/

/-- What is left of the methods, without the record of calls. -/
def UnitsRun.untracked {σ : Type} (r : UnitsRun σ) : UnitsRun σ :=
  { r with assembler := r.assembler.untracked }

namespace Assembler

variable {σ : Type}

section

variable [DecidableEq σ]

theorem assembleMethod_untracked (a : Assembler σ) (t : Task σ) (sites : List σ) :
    a.untracked.assembleMethod t sites =
      { a.assembleMethod t sites with
        assembler := (a.assembleMethod t sites).assembler.untracked } := by
  have hrun := Work.run_untracked t sites (a.begin t sites)
  unfold assembleMethod
  rw [show a.untracked.begin t sites = (a.begin t sites).untracked from rfl, hrun]
  cases Work.run t sites (a.begin t sites) with
  | mk w failure => cases failure <;> rfl

theorem assembleNext_untracked (q : Query σ) (o : Oracle σ) (r : UnitsRun σ) (u : MethodUnit σ) :
    assembleNext q o r.untracked u = (assembleNext q o r u).untracked := by
  unfold assembleNext
  dsimp only
  rw [show r.untracked.assembler = r.assembler.untracked from rfl, assembleMethod_untracked]
  dsimp only
  split <;> rfl

theorem assemble_untracked (a : Assembler σ) (q : Query σ) (o : Oracle σ)
    (units : List (MethodUnit σ)) :
    a.untracked.assemble q o units = (a.assemble q o units).untracked := by
  have hunits : ∀ (us : List (MethodUnit σ)) (r : UnitsRun σ),
      us.foldl (assembleNext q o) r.untracked = (us.foldl (assembleNext q o) r).untracked := by
    intro us
    induction us with
    | nil => exact fun _ => rfl
    | cons u us ih =>
        intro r
        rw [List.foldl_cons, assembleNext_untracked, ih]
        rfl
  have hstart := hunits units { assembler := a, stats := [], log := [] }
  unfold assemble
  dsimp only
  rw [show ({ assembler := a.untracked, stats := [], log := [] } : UnitsRun σ) =
    UnitsRun.untracked { assembler := a, stats := [], log := [] } from rfl, hstart]
  rfl

end

/-! ## Closing a recovery -/

end Assembler

/-- The origins of widgets come first, each of the others has calls only. -/
theorem Attribution.origins_eq_append (t : Attribution) :
    ∃ others, t.origins = t.withoutCalls.origins ++ others ∧
      ∀ o ∈ others, t.elementsOf o = [] := by
  let shown := OrderedSet.ofList (t.elements.values.flatMap OrderedSet.toList)
  have hall : t.origins = (shown.insertAll (t.calls.values.flatMap OrderedSet.toList)).toList := by
    unfold Attribution.origins OrderedSet.ofList OrderedSet.insertAll
    rw [List.flatMap_append, List.foldl_append]
    rfl
  have hshown : t.withoutCalls.origins = shown.toList := by
    unfold Attribution.origins Attribution.withoutCalls OrderedMap.values
    rw [OrderedMap.entries_empty, List.map_nil, List.append_nil]
    rfl
  obtain ⟨others, hothers⟩ :=
    shown.prefix_insertAll (t.calls.values.flatMap OrderedSet.toList)
  refine ⟨others, by rw [hall, hshown, hothers], fun o ho => ?_⟩
  -- An origin of a widget is listed before, and no origin is listed twice.
  have hnodup : (shown.toList ++ others).Nodup := hothers ▸ OrderedSet.nodup _
  refine List.eq_nil_iff_forall_not_mem.mpr fun g hg => ?_
  have hmem : o ∈ t.withoutCalls.origins := Assembler.mem_origins_of_mem_elementsOf hg
  exact (List.nodup_append.mp hnodup).2.2 o (hshown ▸ hmem) o ho rfl

namespace Assembler

variable {σ : Type}

theorem closeOrigin_of_elementsOf_eq_nil (a : Assembler σ) {o : Origin}
    (ho : a.attribution.elementsOf o = []) (roots : OrderedMap Origin (OrderedSet Nat)) :
    a.closeOrigin roots o = roots := by
  unfold closeOrigin parentless
  rw [ho]
  rfl

/-- Origins that are known from calls only add nothing to the roots. -/
theorem foldl_closeOrigin_untracked (a : Assembler σ) (roots : OrderedMap Origin (OrderedSet Nat)) :
    a.attribution.withoutCalls.origins.foldl a.closeOrigin roots =
      a.attribution.origins.foldl a.closeOrigin roots := by
  obtain ⟨others, horigins, hothers⟩ := a.attribution.origins_eq_append
  have hrest : ∀ (os : List Origin), (∀ o ∈ os, a.attribution.elementsOf o = []) →
      ∀ roots, os.foldl a.closeOrigin roots = roots := by
    intro os
    induction os with
    | nil => exact fun _ _ => rfl
    | cons o os ih =>
        intro hos roots
        rw [List.foldl_cons, a.closeOrigin_of_elementsOf_eq_nil (hos o List.mem_cons_self)]
        exact ih (fun o' ho' => hos o' (List.mem_cons_of_mem o ho')) roots
  rw [horigins, List.foldl_append, hrest others hothers]

theorem finish_untracked (a : Assembler σ) :
    a.untracked.finish = { a.finish with attribution := a.attribution.withoutCalls } := by
  have hroots : a.untracked.finish.roots = a.finish.roots := a.foldl_closeOrigin_untracked a.roots
  unfold finish at hroots ⊢
  dsimp only at hroots ⊢
  rw [hroots]
  rfl

/-! ## The two settings -/

theorem Prepared.tracking_eq_untracked {a : Assembler σ} (ha : a.Prepared) (on : Bool) :
    (a.tracking on).untracked = a.tracking false := by
  have hcalls : a.attribution.withoutCalls = a.attribution := by
    rw [congrArg attribution ha.pristine]
    rfl
  unfold untracked tracking
  dsimp only
  rw [hcalls]

variable [DecidableEq σ]

/-- Recording calls changes nothing else. Two assemblers that were prepared
alike, of which one records calls and the other does not, report the same
counts and the same log for any methods, and what they recover differs in
the record of calls only, which is empty for the second: scene, origins of
widgets, menus, dialogs and skipped methods are the same, and so are the
roots, in the same order of components. -/
theorem tracking_adds_calls_only {a : Assembler σ} (ha : a.Prepared) (q : Query σ) (o : Oracle σ)
    (units : List (MethodUnit σ)) :
    let on := (a.tracking true).assemble q o units
    let off := (a.tracking false).assemble q o units
    off.stats = on.stats ∧ off.log = on.log ∧
      off.assembler.finish = { on.assembler.finish with
        attribution := { on.assembler.finish.attribution with calls := ∅ } } := by
  intro on off
  have hoff : off = on.untracked := by
    show (a.tracking false).assemble q o units = ((a.tracking true).assemble q o units).untracked
    rw [← ha.tracking_eq_untracked true, assemble_untracked]
  rw [hoff]
  exact ⟨rfl, rfl, on.assembler.finish_untracked⟩

/-- A box is shown for one component; another only makes a call, and is
known from the record alone. -/
theorem tracking_adds_calls_only_labelledBox :
    let t := Task.straightLine ["void setContentView(int)", "void finish()"]
    let other := Origin.activity "Other" ""
    let units : List (MethodUnit Nat) := [⟨[1], other⟩, ⟨[0], t.origin⟩]
    let on := (labelledBox.tracking true).assemble t.query t.oracle units
    let off := (labelledBox.tracking false).assemble t.query t.oracle units
    labelledBox.Prepared ∧ on.assembler.attribution.origins = [t.origin, other] ∧
      on.assembler.finish.attribution.callsOf other = ["void finish()"] ∧
      on.assembler.finish.roots.keys = [t.origin] ∧
      off.stats = on.stats ∧ off.log = on.log ∧
      off.assembler.finish = { on.assembler.finish with
        attribution := { on.assembler.finish.attribution with calls := ∅ } } := by
  intro t other units on off
  obtain ⟨hstats, hlog, hfinish⟩ :=
    tracking_adds_calls_only prepared_labelledBox t.query t.oracle units
  refine ⟨prepared_labelledBox, by decide +kernel, by decide +kernel, by decide +kernel,
    hstats, hlog, ?_⟩
  rw [hfinish]

end Assembler

end UiRecovery
