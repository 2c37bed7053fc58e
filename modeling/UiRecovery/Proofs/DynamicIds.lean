import UiRecovery.Proofs.Visits

/-!
# Dynamic ids

A widget that code makes and gives no id takes the next dynamic id. These
descend from the start that the settings give, one for each such widget,
and stop at the least word. `Assembler.Draws a hs b` says of a stretch of
work from `a` to `b` that `hs` are the widgets that took a dynamic id, in
the order in which they were made, and that they took the next ones.
Stretches are put together by `Draws.append`, so a whole life of an
assembler needs nothing but

- **the arithmetic** (`toInt_drawId`): to draw an id is to subtract one,
  unless the least word is reached. Nothing ever wraps around;
- **one visit** (`Visit.draws`): constructions, list views and adapter
  rows draw an id just if they add a widget, which is if their place has
  none yet. All other actions leave the next id alone
  (`nextDynamicId_perform`), also where they add widgets.

A method that fails gives no id back, so there is nothing to say about
failure.
-/

namespace UiRecovery

/-! ## The ids -/

/-- The id that is `k` below `start`, or the least word. -/
def dynamicIdAfter (start : Int32) (k : Nat) : Int := max (start.toInt - k) (-2147483648)

theorem dynamicIdAfter_zero (start : Int32) : dynamicIdAfter start 0 = start.toInt := by
  have hlow := Int32.le_toInt start
  unfold dynamicIdAfter
  omega

theorem dynamicIdAfter_add {start next : Int32} {n : Nat}
    (hnext : next.toInt = dynamicIdAfter start n) (k : Nat) :
    dynamicIdAfter next k = dynamicIdAfter start (n + k) := by
  unfold dynamicIdAfter at *
  omega

theorem dynamicIdAfter_neg {start : Int32} (hstart : start.toInt < 0) (k : Nat) :
    dynamicIdAfter start k < 0 := by
  unfold dynamicIdAfter
  omega

/-- Later ids are lower, until the lowest. -/
theorem dynamicIdAfter_lt (start : Int32) {k n : Nat} (hkn : k < n) :
    dynamicIdAfter start n < dynamicIdAfter start k ∨
      dynamicIdAfter start k = -2147483648 ∧ dynamicIdAfter start n = -2147483648 := by
  unfold dynamicIdAfter
  omega

theorem Work.toInt_drawId {σ : Type} (w : Work σ) :
    w.drawId.2.nextDynamicId.toInt = dynamicIdAfter w.nextDynamicId 1 := by
  have hlow := Int32.le_toInt w.nextDynamicId
  have hhigh := Int32.toInt_lt w.nextDynamicId
  unfold drawId dynamicIdAfter
  dsimp only
  split
  · rename_i hmin
    have hleast : w.nextDynamicId.toInt = -2147483648 := congrArg Int32.toInt hmin
    omega
  · rename_i hmin
    have hne : w.nextDynamicId.toInt ≠ -2147483648 := fun heq => hmin (Int32.toInt_inj.mp heq)
    rw [Int32.toInt_sub, show (1 : Int32).toInt = 1 from rfl, Int.bmod_def]
    split <;> omega

/-! ## Stretches of work -/

namespace Assembler

variable {σ : Type} {a b c : Assembler σ} {hs hs' : List Nat}

structure Draws (a : Assembler σ) (hs : List Nat) (b : Assembler σ) : Prop where
  size_le : a.scene.size ≤ b.scene.size
  keeps : ∀ h < a.scene.size, (b.scene.widget h).id = (a.scene.widget h).id
  next : b.nextDynamicId.toInt = dynamicIdAfter a.nextDynamicId hs.length
  /-- The widget with number `k` is new, and has the id with number `k`. -/
  drawn : ∀ k h, hs[k]? = some h → a.scene.size ≤ h ∧ h < b.scene.size ∧
    (b.scene.widget h).id.toInt = dynamicIdAfter a.nextDynamicId k
  ordered : hs.Pairwise (· < ·)

namespace Draws

theorem quiet (hsize : a.scene.size ≤ b.scene.size)
    (hkeeps : ∀ h < a.scene.size, (b.scene.widget h).id = (a.scene.widget h).id)
    (hnext : b.nextDynamicId = a.nextDynamicId) : Draws a [] b where
  size_le := hsize
  keeps := hkeeps
  next := by rw [hnext, List.length_nil, dynamicIdAfter_zero]
  drawn k h hh := by simp at hh
  ordered := List.Pairwise.nil

theorem of_scene (hscene : b.scene = a.scene) (hnext : b.nextDynamicId = a.nextDynamicId) :
    Draws a [] b :=
  quiet (by rw [hscene]) (fun h _ => by rw [hscene]) hnext

theorem refl (a : Assembler σ) : Draws a [] a := of_scene rfl rfl

theorem append (h : Draws a hs b) (h' : Draws b hs' c) : Draws a (hs ++ hs') c where
  size_le := h.size_le.trans h'.size_le
  keeps x hx := (h'.keeps x (hx.trans_le h.size_le)).trans (h.keeps x hx)
  next := by rw [h'.next, dynamicIdAfter_add h.next, List.length_append]
  drawn k x hx := by
    by_cases hk : k < hs.length
    · rw [List.getElem?_append_left hk] at hx
      obtain ⟨hlow, hhigh, hid⟩ := h.drawn k x hx
      refine ⟨hlow, hhigh.trans_le h'.size_le, ?_⟩
      rw [h'.keeps x hhigh, hid]
    · rw [List.getElem?_append_right (Nat.le_of_not_lt hk)] at hx
      obtain ⟨hlow, hhigh, hid⟩ := h'.drawn _ x hx
      refine ⟨h.size_le.trans hlow, hhigh, ?_⟩
      rw [hid, dynamicIdAfter_add h.next, Nat.add_sub_cancel' (Nat.le_of_not_lt hk)]
  ordered := by
    -- What the second stretch makes is behind all that was there before.
    refine List.pairwise_append.mpr ⟨h.ordered, h'.ordered, ?_⟩
    intro x hx y hy
    obtain ⟨k, hk⟩ := List.getElem?_of_mem hx
    obtain ⟨n, hn⟩ := List.getElem?_of_mem hy
    exact (h.drawn k x hk).2.1.trans_le (h'.drawn n y hn).1

theorem append_quiet (h : Draws a hs b) (h' : Draws b [] c) : Draws a hs c := by
  have happend := h.append h'
  rwa [List.append_nil] at happend

end Draws

end Assembler

/-! ## Actions -/

namespace Work

variable {σ : Type} [DecidableEq σ] {t : Task σ} {s : σ} {w v : Work σ}

theorem Moves.nextDynamicId_eq {x y : Set Nat × Work σ} (h : Moves t [] x y) :
    y.2.nextDynamicId = x.2.nextDynamicId := by
  induction h with
  | refl => rfl
  | tail _ hmove ih =>
      rw [← ih]
      cases hmove with
      | allocation _ _ hs => cases hs
      | _ => rfl

/-- Work that leaves the next id alone, and makes whatever widgets. -/
theorem Moves.draws_quiet {sites : List σ} {H H' : Set Nat} (h : Moves t sites (H, w) (H', v))
    (hnext : v.nextDynamicId = w.nextDynamicId) : w.toAssembler.Draws [] v.toAssembler :=
  .quiet h.grows.scene.size_le (fun _ hx => h.grows.scene.id_widget hx) hnext

/-- The widgets that `v` has and `w` has not, in the order in which they
were made. -/
def newWidgets (w v : Work σ) : List Nat :=
  List.range' w.scene.size (v.scene.size - w.scene.size)

omit [DecidableEq σ] in
theorem newWidgets_of_size (h : v.scene.size = w.scene.size) : newWidgets w v = [] := by
  unfold newWidgets
  rw [h, Nat.sub_self, List.range'_zero]

omit [DecidableEq σ] in
theorem draws_createDynamic (w : Work σ) (className : String) (kind : WidgetKind) :
    w.toAssembler.Draws [w.scene.size] (w.createDynamic className kind).2.toAssembler := by
  have hscene : (w.createDynamic className kind).2.scene =
      (w.scene.create w.nextDynamicId className kind).2 := rfl
  have hsize : (w.createDynamic className kind).2.scene.size = w.scene.size + 1 := by
    rw [hscene, Scene.size_create]
  have hid : ((w.createDynamic className kind).2.scene.widget w.scene.size).id =
      w.nextDynamicId := by
    simp [hscene, Scene.widget, Scene.get?_create]
  refine ⟨by omega, fun x hx => ?_, w.toInt_drawId, fun k h hh => ?_,
    List.pairwise_singleton _ _⟩
  · rw [hscene, Scene.widget, Scene.get?_create, if_neg (Nat.ne_of_lt hx)]
    rfl
  · obtain ⟨rfl, rfl⟩ : k = 0 ∧ w.scene.size = h := by simpa [List.getElem?_singleton] using hh
    rw [hid, dynamicIdAfter_zero]
    exact ⟨le_rfl, by omega, rfl⟩

/-- A place that has no widget gets one, with the next id. -/
theorem draws_allocation (w : Work σ) (s : σ) (className : String)
    (kind : Work σ → WidgetKind) :
    let r := w.mergedOr (.allocation s) fun w => w.createDynamic className (kind w)
    w.toAssembler.Draws (newWidgets w r.2) r.2.toAssembler := by
  unfold mergedOr
  cases w.merged.get? (.allocation s) with
  | some h =>
      show w.toAssembler.Draws (newWidgets w w) w.toAssembler
      rw [newWidgets_of_size rfl]
      exact .refl _
  | none =>
      dsimp only
      have hmade := w.draws_createDynamic className (kind w)
      have hnew : newWidgets w (w.createDynamic className (kind w)).2 = [w.scene.size] := by
        unfold newWidgets
        rw [show (w.createDynamic className (kind w)).2.scene.size = w.scene.size + 1 from
          Scene.size_create .., Nat.add_sub_cancel_left, List.range'_one]
      rw [← hnew] at hmade
      exact hmade.append_quiet (.of_scene rfl rfl)

/-- What is done with the widget afterwards neither draws an id nor makes
another one. -/
theorem draws_of_moves {r : Work σ} {H H' : Set Nat}
    (h : w.toAssembler.Draws (newWidgets w r) r.toAssembler) (hmoves : Moves t [] (H, r) (H', v))
    (hsize : v.scene.size = r.scene.size) :
    w.toAssembler.Draws (newWidgets w v) v.toAssembler := by
  have hnew : newWidgets w v = newWidgets w r := by
    unfold newWidgets
    rw [hsize]
  rw [hnew]
  exact h.append_quiet (hmoves.draws_quiet hmoves.nextDynamicId_eq)

theorem draws_same {H H' : Set Nat} (hmoves : Moves t [] (H, w) (H', v))
    (hsize : v.scene.size = w.scene.size) :
    w.toAssembler.Draws (newWidgets w v) v.toAssembler := by
  rw [newWidgets_of_size hsize]
  exact hmoves.draws_quiet hmoves.nextDynamicId_eq

theorem draws_allocate (w : Work σ) (t : Task σ) (s : σ) (className : String) :
    w.toAssembler.Draws (newWidgets w (w.allocate t s className))
      (w.allocate t s className).toAssembler := by
  let name := t.query.definedLocal s
  rw [allocate_eq]
  dsimp only
  split
  · have hmoves : Moves t [] (∅, w) (∅,
        ({ w with drafts := w.drafts ++ [({} : Dialog)] }).bindDraft name w.drafts.length) :=
      .head .draft (moves_bindDraft _ _ (Or.inl (by simp)))
    exact draws_same hmoves (by simp)
  · split
    · have hmade := w.draws_allocation s className fun w => w.kindOf className
      generalize (w.mergedOr (.allocation s) fun w =>
        w.createDynamic className (w.kindOf className)) = r at hmade ⊢
      have hmoves : Moves t [] (Set.univ, r.2) (Set.univ,
          ((r.2.nameAfter r.1 name).tag t.origin r.1).bindLocal name [r.1]) :=
        ((moves_nameAfter r.2 _ (Set.mem_univ _)).tail (.tag (Set.mem_univ _))).trans
          (moves_bindOne _ _ (Set.mem_univ _))
      refine draws_of_moves hmade hmoves ?_
      rw [scene_bindLocal]
      exact r.2.size_nameAfter r.1 _
    · have hmoves : Moves t [] (∅, w) (∅, w.unbindLocal name) := moves_unbindLocal w name
      exact draws_same hmoves (by simp)

theorem draws_listView (w : Work σ) (t : Task σ) (s : σ) :
    w.toAssembler.Draws (newWidgets w (w.listView t s)) (w.listView t s).toAssembler := by
  have hmade := w.draws_allocation s Toolkit.listClass fun _ => .group []
  rw [listView_eq]
  generalize (w.mergedOr (.allocation s) fun w =>
    w.createDynamic Toolkit.listClass (.group [])) = r at hmade ⊢
  have hmoves : Moves t [] (Set.univ, r.2)
      (Set.univ, (r.2.tag t.origin r.1).bindLocal (t.query.definedLocal s) [r.1]) :=
    .head (.tag (Set.mem_univ _)) (moves_bindOne _ _ (Set.mem_univ _))
  refine draws_of_moves hmade hmoves ?_
  rw [scene_bindLocal]
  rfl

theorem draws_adapterRow (w : Work σ) (t : Task σ) (s : σ) (signature : String) :
    w.toAssembler.Draws (newWidgets w (w.adapterRow t s signature))
      (w.adapterRow t s signature).toAssembler := by
  have hmade := w.draws_allocation s Toolkit.viewClass fun _ => .view
  rw [adapterRow_eq]
  generalize (w.mergedOr (.allocation s) fun w =>
    w.createDynamic Toolkit.viewClass .view) = r at hmade ⊢
  dsimp only
  generalize (r.2.tag t.origin r.1).containerArg t s (Signature.callParams signature) = parents
  have hmoves : Moves t [] (Set.univ, r.2) (Set.univ,
      ((r.2.tag t.origin r.1).attachAll parents [r.1]).bindLocal (t.query.definedLocal s) [r.1]) :=
    .head (.tag (Set.mem_univ _))
      ((moves_attachAll _ (fun _ _ => Set.mem_univ _) fun _ _ => Set.mem_univ _).trans
        (moves_bindOne _ _ (Set.mem_univ _)))
  refine draws_of_moves hmade hmoves ?_
  rw [scene_bindLocal, size_attachAll]
  rfl

/-- A lookup that finds nothing makes a widget with the id that was looked
for, so it draws none. -/
theorem nextDynamicId_lookupOne (s : σ) (className : String) (containers : List Nat)
    (w : Work σ) (id : Int32) :
    (lookupOne t s className containers w id).2.nextDynamicId = w.nextDynamicId := by
  have hfinish : ∀ r : Nat × Work σ,
      ((r.2.nameAfter r.1 (t.query.definedLocal s)).tag t.origin r.1).nextDynamicId =
        r.2.nextDynamicId := by
    intro r
    have hmoves : Moves t [] (Set.univ, r.2)
        (Set.univ, (r.2.nameAfter r.1 (t.query.definedLocal s)).tag t.origin r.1) :=
      (moves_nameAfter r.2 _ (Set.mem_univ _)).tail (.tag (Set.mem_univ _))
    exact hmoves.nextDynamicId_eq
  rw [lookupOne_eq]
  cases containers.findSome? fun c => w.scene.find? c id with
  | some h => exact hfinish (h, w)
  | none =>
      refine (hfinish _).trans ?_
      unfold mergedOr
      cases w.merged.get? (.lookup s id) <;> rfl

omit [DecidableEq σ] in
theorem nextDynamicId_collect {α : Type} {step : Work σ → α → Nat × Work σ}
    (hstep : ∀ w a, (step w a).2.nextDynamicId = w.nextDynamicId) (as : List α) :
    ∀ w : Work σ, (collect step as w).2.nextDynamicId = w.nextDynamicId := by
  induction as with
  | nil => exact fun _ => rfl
  | cons a as ih => exact fun w => (ih _).trans (hstep w a)

theorem nextDynamicId_lookup (w : Work σ) (s call : σ) (className : String) :
    (w.lookup t s call className).nextDynamicId = w.nextDynamicId := by
  have hasked : Moves t [] (∅, w) (∅, (w.askInts t (.arg 0) call).2) :=
    moves_askInts w (.arg 0) call
  let r := collect (lookupOne t s className
    ((w.askInts t (.arg 0) call).2.bound (t.query.receiver call)))
    (lookupIds (w.askInts t (.arg 0) call).1) (w.askInts t (.arg 0) call).2
  have hbinds : Moves t [] (Set.univ, r.2) (Set.univ, w.lookup t s call className) :=
    (moves_bindLocal r.2 (t.query.definedLocal call) fun _ _ => Set.mem_univ _).trans
      (moves_bindLocal _ (t.query.definedLocal s) fun _ _ => Set.mem_univ _)
  have hfound : r.2.nextDynamicId = (w.askInts t (.arg 0) call).2.nextDynamicId :=
    nextDynamicId_collect (nextDynamicId_lookupOne s className _) _ _
  exact (hbinds.nextDynamicId_eq.trans hfound).trans hasked.nextDynamicId_eq

end Work

/-- The actions whose widgets the code gives no id. -/
def Action.isDynamic {σ : Type} : Action σ → Bool
  | .allocate _ => true
  | .listView => true
  | .adapterRow _ => true
  | _ => false

namespace Work

variable {σ : Type} [DecidableEq σ] {t : Task σ}

theorem nextDynamicId_perform (w : Work σ) (s : σ) {a : Action σ} (ha : a.isDynamic = false) :
    (w.perform t s a).nextDynamicId = w.nextDynamicId := by
  have hother : Moves t [] (∅, w) (∅, w.perform t s a) →
      (w.perform t s a).nextDynamicId = w.nextDynamicId :=
    fun hmoves => hmoves.nextDynamicId_eq
  cases a with
  | await => rfl
  | lookup call className => exact w.nextDynamicId_lookup s call className
  | childAt call => exact hother (moves_childAt w s call)
  | clear => exact hother (moves_unbindLocal w _)
  | allocate className => cases ha
  | inflate signature => exact hother (moves_inflate w s signature)
  | addView => exact hother (moves_addView w s)
  | adapterRow signature => cases ha
  | listView => cases ha
  | showLayout => exact hother (moves_showLayout w s)
  | showWidget => exact hother (moves_showWidget w s)
  | inflateMenu => exact hother (moves_inflateMenu w s)
  | fragment signature => exact hother (moves_fragment w s signature)
  | call signature => exact hother (moves_call w s signature)
  | nothing => rfl

theorem draws_perform (w : Work σ) (s : σ) {a : Action σ} (ha : a.isDynamic = true) :
    w.toAssembler.Draws (newWidgets w (w.perform t s a)) (w.perform t s a).toAssembler := by
  cases a with
  | allocate className => exact w.draws_allocate t s className
  | listView => exact w.draws_listView t s
  | adapterRow signature => exact w.draws_adapterRow t s signature
  | _ => cases ha

end Work

/-! ## Visits -/

namespace Visit

variable {σ : Type} [DecidableEq σ]

/-- What the visit adds to the scene for a construction, a list view or an
adapter row. -/
def dynamicWidgets (v : Visit σ) : List Nat :=
  match v.task.query.action v.site with
  | .ok action => if action.isDynamic then Work.newWidgets v.work v.next else []
  | .error _ => []

theorem draws (v : Visit σ) :
    v.work.toAssembler.Draws v.dynamicWidgets v.next.toAssembler := by
  obtain ⟨attribution, hnote⟩ := v.work.noteCall_eq v.task v.site
  have hmoves := v.moves
  unfold dynamicWidgets
  unfold next at hmoves ⊢
  rw [Work.step_eq, hnote] at hmoves ⊢
  cases haction : v.task.query.action v.site with
  | error e => exact .of_scene rfl rfl
  | ok action =>
      rw [haction] at hmoves
      dsimp only at hmoves ⊢
      let noted : Work σ := { v.work with attribution }
      have hnoted : v.work.toAssembler.Draws [] noted.toAssembler := .of_scene rfl rfl
      cases hdynamic : action.isDynamic with
      | true =>
          rw [if_pos rfl]
          exact hnoted.append (noted.draws_perform v.site hdynamic)
      | false =>
          rw [if_neg Bool.false_ne_true]
          exact hmoves.draws_quiet (noted.nextDynamicId_perform v.site hdynamic)

end Visit

namespace Work

variable {σ : Type} [DecidableEq σ]

theorem draws_run (t : Task σ) : ∀ (sites : List σ) (w : Work σ),
    w.toAssembler.Draws ((visits t sites w).flatMap Visit.dynamicWidgets)
      (run t sites w).1.toAssembler
  | [], w => .refl _
  | s :: rest, w => by
      have hfirst := (Visit.mk t w s).draws
      unfold Visit.next at hfirst
      rw [run, visits, List.flatMap_cons]
      cases hstep : w.step t s with
      | mk w' failure =>
          rw [hstep] at hfirst
          cases failure with
          | none => exact hfirst.append (draws_run t rest w')
          | some e =>
              rw [List.flatMap_nil, List.append_nil]
              exact hfirst

end Work

/-! ## The life of an assembler -/

namespace Assembler

variable {σ : Type} [DecidableEq σ]

theorem draws_assembleMethod (a : Assembler σ) (t : Task σ) (sites : List σ) :
    a.Draws ((Work.visits t sites (a.begin t sites)).flatMap Visit.dynamicWidgets)
      (a.assembleMethod t sites).assembler := by
  have hrun := Work.draws_run t sites (a.begin t sites)
  rw [assembler_assembleMethod]
  split
  · exact hrun
  · exact hrun.append_quiet (.of_scene rfl rfl)

theorem draws_assembleNext (q : Query σ) (o : Oracle σ) (r : UnitsRun σ) (u : MethodUnit σ) :
    let t : Task σ := ⟨q, o, u.origin⟩
    r.assembler.Draws
      ((Work.visits t u.sites (r.assembler.begin t u.sites)).flatMap Visit.dynamicWidgets)
      (assembleNext q o r u).assembler := by
  intro t
  have hmethod := r.assembler.draws_assembleMethod t u.sites
  unfold assembleNext
  dsimp only
  split
  · exact hmethod
  · exact hmethod.append_quiet (.of_scene rfl rfl)

theorem draws_units (q : Query σ) (o : Oracle σ) :
    ∀ (units : List (MethodUnit σ)) (r : UnitsRun σ),
      r.assembler.Draws ((unitVisits q o units r).flatMap Visit.dynamicWidgets)
        (units.foldl (assembleNext q o) r).assembler
  | [], r => .refl _
  | u :: units, r => by
      rw [unitVisits, List.flatMap_append]
      exact (draws_assembleNext q o r u).append (draws_units q o units (assembleNext q o r u))

theorem draws_assembled (a : Assembler σ) (c : AssemblyCall σ) :
    a.Draws ((a.callVisits c).flatMap Visit.dynamicWidgets) (a.assembled c) := by
  cases c with
  | method t sites => exact a.draws_assembleMethod t sites
  | units q o units => exact draws_units q o units { assembler := a, stats := [], log := [] }

omit [DecidableEq σ] in
theorem draws_prepare (a : Assembler σ) (p : Preparation) : a.Draws [] (a.prepare p) := by
  obtain ⟨scene, layouts, menuTemplates, hscene, hprepare⟩ := a.prepare_eq p
  rw [hprepare]
  exact .quiet hscene.size_le (fun _ hx => hscene.id_widget hx) rfl

/-- The widgets that requests add to the scene for constructions, list
views and adapter rows, in the order in which they are made. -/
def dynamicWidgets (a : Assembler σ) : List (Request σ) → List Nat
  | [] => []
  | .prepare p :: requests => (a.prepare p).dynamicWidgets requests
  | .assemble c :: requests =>
    (a.callVisits c).flatMap Visit.dynamicWidgets ++ (a.assembled c).dynamicWidgets requests

theorem draws_requests : ∀ (requests : List (Request σ)) (a : Assembler σ),
    a.Draws (a.dynamicWidgets requests) (requests.foldl serve a)
  | [], a => .refl a
  | .prepare p :: requests, a => (a.draws_prepare p).append (draws_requests requests (a.prepare p))
  | .assemble c :: requests, a =>
      (a.draws_assembled c).append (draws_requests requests (a.assembled c))

omit [DecidableEq σ] in
theorem dynamicIdStart_neg {settings : Settings} {start : Assembler σ}
    (hstart : create settings = .ok start) : settings.dynamicIdStart.toInt < 0 := by
  unfold create Settings.validate at hstart
  by_cases hvalid : 0 ≤ settings.dynamicIdStart
  · rw [if_pos hvalid] at hstart
    cases hstart
  · rw [Int32.not_le] at hvalid
    exact Int32.lt_iff_toInt_lt.mp hvalid

/-- Dynamic ids descend. Over the whole life of an assembler with valid
settings, whatever it is asked for and whichever methods fail, the widget
with number `k` among those made for constructions, list views and adapter
rows has the id `k` below the start, or the least word if that is higher.
So these ids are negative, they go down from one widget to the next until
the least word is reached, exactly one is drawn for each widget, and to
draw one never wraps around. -/
theorem dynamic_ids_descend {settings : Settings} {start : Assembler σ}
    (hstart : create settings = .ok start) (requests : List (Request σ)) :
    let a := requests.foldl serve start
    let made := start.dynamicWidgets requests
    (∀ (k : Nat) h, made[k]? = some h → h < a.scene.size ∧
      (a.scene.widget h).id.toInt = max (settings.dynamicIdStart.toInt - k) (-2147483648)) ∧
    (∀ h ∈ made, (a.scene.widget h).id < 0) ∧
    (made.Pairwise fun h h' => h < h' ∧
      ((a.scene.widget h').id < (a.scene.widget h).id ∨
        (a.scene.widget h).id = Int32.minValue ∧ (a.scene.widget h').id = Int32.minValue)) ∧
    a.nextDynamicId.toInt =
      max (settings.dynamicIdStart.toInt - made.length) (-2147483648) ∧
    ∀ w : Work σ, w.drawId.2.nextDynamicId.toInt =
      max (w.nextDynamicId.toInt - 1) (-2147483648) := by
  intro a made
  have hdraws := draws_requests requests start
  have hfirst : start.nextDynamicId = settings.dynamicIdStart := by rw [create_eq_ok hstart]
  have hneg := dynamicIdStart_neg hstart
  have hids : ∀ k h, made[k]? = some h → h < a.scene.size ∧
      (a.scene.widget h).id.toInt = dynamicIdAfter settings.dynamicIdStart k := by
    intro k h hh
    obtain ⟨-, hhigh, hid⟩ := hdraws.drawn k h hh
    exact ⟨hhigh, hfirst ▸ hid⟩
  refine ⟨hids, ?_, ?_, hfirst ▸ hdraws.next, fun w => w.toInt_drawId⟩
  · intro h hh
    obtain ⟨k, hk⟩ := List.getElem?_of_mem hh
    rw [Int32.lt_iff_toInt_lt, (hids k h hk).2]
    exact dynamicIdAfter_neg hneg k
  · refine List.pairwise_iff_getElem.mpr ?_
    intro k n hk hn hkn
    have hkId := (hids k _ (List.getElem?_eq_getElem hk)).2
    have hnId := (hids n _ (List.getElem?_eq_getElem hn)).2
    refine ⟨List.pairwise_iff_getElem.mp hdraws.ordered k n hk hn hkn, ?_⟩
    rw [Int32.lt_iff_toInt_lt, ← Int32.toInt_inj, ← Int32.toInt_inj, hkId, hnId]
    exact dynamicIdAfter_lt settings.dynamicIdStart hkn

/-- Two screens that ask for list views, beside a layout. The first one
fails after it has made one. -/
def listViewRequests : List (Request Nat) :=
  let list := "android.widget.ListView getListView()"
  let q := Query.straightLine [list, "android.view.View findViewById(int)", list, list]
  Preparation.labelledBox.map .prepare ++
    [.assemble (.units q (fun _ _ => .known (.ofList [.int 100]))
      [⟨[0, 1, 2], .activity "Main" ""⟩, ⟨[2, 0, 3], .activity "Other" ""⟩])]

/-- One id is left above the least word. The list view that the second
screen finds in place draws none. -/
theorem dynamic_ids_descend_listViews :
    let settings : Settings := { dynamicIdStart := -2147483647 }
    let start : Assembler Nat := { settings, nextDynamicId := settings.dynamicIdStart }
    let a := listViewRequests.foldl serve start
    create settings = .ok start ∧ a.skipped.length = 1 ∧
      start.dynamicWidgets listViewRequests = [2, 3, 4] ∧
      (a.scene.widget 2).id = -2147483647 ∧ (a.scene.widget 3).id = Int32.minValue ∧
      (a.scene.widget 4).id = Int32.minValue ∧ a.nextDynamicId = Int32.minValue := by
  intro settings start a
  have hstart : create settings = .ok start := rfl
  have hmade : start.dynamicWidgets listViewRequests = [2, 3, 4] := by decide +kernel
  obtain ⟨hids, -, -, hnext, -⟩ := dynamic_ids_descend hstart listViewRequests
  rw [hmade] at hids hnext
  refine ⟨hstart, by decide +kernel, hmade, ?_, ?_, ?_, ?_⟩ <;> rw [← Int32.toInt_inj]
  · exact (hids 0 2 rfl).2
  · exact (hids 1 3 rfl).2
  · exact (hids 2 4 rfl).2
  · exact hnext

end Assembler

end UiRecovery
