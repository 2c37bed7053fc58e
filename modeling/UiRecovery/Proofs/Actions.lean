import UiRecovery.Proofs.Moves

/-!
# Actions as moves

Every action is a sequence of moves. Each lemma follows the definition of its action from one
operation to the next: what the action reads is taken in hand where it is read, and what it makes is
in hand from there on. Work at a site begins and ends with an empty hand.
-/

namespace UiRecovery.Work

variable {σ : Type} [DecidableEq σ] {t : Task σ} {sites : List σ}

/-! ## Widgets -/

theorem moves_find {H : Set Nat} {w : Work σ} {containers : List Nat} {id : Int32}
    {h : Nat} (hcontainers : ∀ c ∈ containers, c ∈ H)
    (hfind : (containers.findSome? fun c => w.scene.find? c id) = some h) :
    Moves t sites (H, w) (insert h H, w) := by
  obtain ⟨c, hc, hch⟩ := List.exists_of_findSome?_eq_some hfind
  exact moves_insert ((Graspable.held (hcontainers c hc)).reaches (Scene.reaches_of_find? hch))

theorem kindOf_bare {σ : Type} (w : Work σ) (className : String) :
    (w.kindOf className).bare = w.kindOf className := by
  unfold kindOf
  split <;> rfl

theorem moves_mergedOr_lookup {H : Set Nat} (w : Work σ) {s : σ} (id : Int32)
    (className : String) (hs : s ∈ sites) :
    let r := w.mergedOr (.lookup s id) fun w => w.createWidget id className (w.kindOf className)
    Moves t sites (H, w) (insert r.1 H, r.2) := by
  unfold mergedOr
  cases hget : w.merged.get? (.lookup s id) with
  | some h => exact moves_insert (.merged (.lookup s id) hs hget)
  | none =>
      have hmove := Move.lookup (t := t) (H := H) className (w.kindOf className) hs hget
      rw [kindOf_bare] at hmove
      exact .single hmove

theorem moves_mergedOr_allocation {H : Set Nat} (w : Work σ) {s : σ} (className : String)
    (kind : Work σ → WidgetKind) (hkind : (kind w).bare = kind w) (hs : s ∈ sites) :
    let r := w.mergedOr (.allocation s) fun w => w.createDynamic className (kind w)
    Moves t sites (H, w) (insert r.1 H, r.2) := by
  unfold mergedOr
  cases hget : w.merged.get? (.allocation s) with
  | some h => exact moves_insert (.merged (.allocation s) hs hget)
  | none =>
      have hmove := Move.allocation (t := t) (H := H) className (kind w) hs hget
      rw [hkind] at hmove
      exact .single hmove

theorem moves_lookupOne {H : Set Nat} (w : Work σ) {s : σ} (className : String)
    {containers : List Nat} (id : Int32) (hs : s ∈ sites)
    (hcontainers : ∀ c ∈ containers, c ∈ H) :
    Moves t sites (H, w) (insert (lookupOne t s className containers w id).1 H,
      (lookupOne t s className containers w id).2) := by
  have hfinish : ∀ r : Nat × Work σ, Moves t sites (H, w) (insert r.1 H, r.2) →
      Moves t sites (H, w)
        (insert r.1 H, (r.2.nameAfter r.1 (t.query.definedLocal s)).tag t.origin r.1) :=
    fun r hr => (hr.trans (moves_nameAfter _ _ (Set.mem_insert _ _))).tail
      (.tag (Set.mem_insert _ _))
  rw [lookupOne_eq]
  cases hfind : containers.findSome? fun c => w.scene.find? c id with
  | some h => exact hfinish (h, w) (moves_find hcontainers hfind)
  | none => exact hfinish _ (moves_mergedOr_lookup w id className hs)

theorem moves_materialize {H : Set Nat} (w : Work σ) (layoutId : Int64) :
    Moves t sites (H, w) (H ∪ {h | h ∈ (materialize t.origin w layoutId).1},
      (materialize t.origin w layoutId).2) := by
  rw [materialize_eq]
  cases hget : (word32? layoutId).bind w.layouts.get? with
  | none => exact (moves_note w _).trans (moves_drop _ (by simp))
  | some layout =>
      obtain ⟨id, -, hid⟩ := Option.bind_eq_some_iff.mp hget
      refine (moves_collect copyRoot
        (fun w' => w'.layouts.get? id = some layout) ∅ layout.roots ?_
        w hid H (Set.empty_subset H)).trans ?_
      · exact fun h hh w' hw' => ⟨hw', fun _ _ => .single (.copy hw' hh)⟩
      · exact moves_foldl (fun c hc w' => moves_tagTree w' (Or.inr hc)) _

/-! ## Actions -/

/-- Take in hand what a local denotes. -/
theorem moves_bound {H : Set Nat} (w : Work σ) (name : Option String) :
    Moves t sites (H, w) (H ∪ {h | h ∈ w.bound name}, w) := by
  refine moves_grasp fun h hh => ?_
  rcases hh with hh | hh
  · exact .held hh
  · exact .bound hh

theorem moves_lookup (w : Work σ) {s : σ} (call : σ) (className : String) (hs : s ∈ sites) :
    Moves t sites (∅, w) (∅, w.lookup t s call className) := by
  refine (moves_askInts w (.arg 0) call).trans ?_
  generalize hask : w.askInts t (.arg 0) call = asked
  obtain ⟨ints, w₁⟩ := asked
  refine (moves_bound w₁ (t.query.receiver call)).trans ?_
  refine (moves_collect (lookupOne t s className (w₁.bound (t.query.receiver call)))
    (fun _ => True) _ (lookupIds ints) (fun id _ w' _ => ⟨trivial, fun H hH =>
      moves_lookupOne w' className id hs fun c hc => hH (Or.inr hc)⟩)
    w₁ trivial _ subset_rfl).trans ?_
  rw [lookup_eq, hask]
  refine ((moves_bindLocal _ (t.query.definedLocal call) fun h hh => Or.inr hh).trans
    (moves_bindLocal _ (t.query.definedLocal s) fun h hh => Or.inr hh)).trans ?_
  exact moves_release _

theorem moves_childAt (w : Work σ) (s call : σ) :
    Moves t sites (∅, w) (∅, w.childAt t s call) := by
  let hs := (w.bound (t.query.receiver call)).flatMap w.scene.children
  have hgrasp : Moves t sites (∅, w) ({h | h ∈ hs}, w) := by
    refine moves_grasp fun c hc => ?_
    obtain ⟨h, hh, hhc⟩ := List.mem_flatMap.mp hc
    exact .child (.bound hh) hhc
  rw [childAt_eq]
  refine hgrasp.trans ?_
  refine ((moves_bindLocal w (t.query.definedLocal call) fun h hh => hh).trans
    (moves_bindLocal _ (t.query.definedLocal s) fun h hh => hh)).trans ?_
  exact moves_release _

theorem moves_allocate (w : Work σ) {s : σ} (className : String) (hs : s ∈ sites) :
    Moves t sites (∅, w) (∅, w.allocate t s className) := by
  rw [allocate_eq]
  dsimp only
  split
  · exact .head .draft (moves_bindDraft _ _ (Or.inl (by simp)))
  · split
    · refine (moves_mergedOr_allocation w className (fun w => w.kindOf className)
        (kindOf_bare w className) hs).trans ?_
      refine (moves_nameAfter _ (t.query.definedLocal s) (Set.mem_insert _ _)).trans ?_
      refine .head (.tag (Set.mem_insert _ _)) ?_
      exact (moves_bindOne _ (t.query.definedLocal s) (Set.mem_insert _ _)).trans
        (moves_release _)
    · exact moves_unbindLocal w _

theorem moves_listView (w : Work σ) {s : σ} (hs : s ∈ sites) :
    Moves t sites (∅, w) (∅, w.listView t s) := by
  refine (moves_mergedOr_allocation w Toolkit.listClass (fun _ => .group []) rfl hs).trans ?_
  refine .head (.tag (Set.mem_insert _ _)) ?_
  exact (moves_bindOne _ (t.query.definedLocal s) (Set.mem_insert _ _)).trans
    (moves_release _)

/-- Take in hand what is passed for the first container parameter. -/
theorem moves_containerArg {H : Set Nat} (w : Work σ) (s : σ) (params : List String) :
    Moves t sites (H, w) (H ∪ {h | h ∈ w.containerArg t s params}, w) := by
  unfold containerArg
  split
  · exact moves_bound w _
  · exact moves_drop w (by simp)

theorem moves_adapterRow (w : Work σ) {s : σ} (signature : String) (hs : s ∈ sites) :
    Moves t sites (∅, w) (∅, w.adapterRow t s signature) := by
  let row := w.mergedOr (.allocation s) fun w => w.createDynamic Toolkit.viewClass .view
  have hrow : ∀ c ∈ [row.1], c ∈ insert row.1 (∅ : Set Nat) := by simp
  refine (moves_mergedOr_allocation w Toolkit.viewClass (fun _ => .view) rfl hs).trans ?_
  refine .head (.tag (Set.mem_insert _ _)) ?_
  refine (moves_containerArg _ s (Signature.callParams signature)).trans ?_
  refine (moves_attachAll _ (fun p hp => Or.inr hp) fun c hc => Or.inl (hrow c hc)).trans ?_
  exact (moves_bindOne _ (t.query.definedLocal s) (Or.inl (Set.mem_insert _ _))).trans
    (moves_release _)

theorem moves_inflate (w : Work σ) (s : σ) (signature : String) :
    Moves t sites (∅, w) (∅, w.inflate t s signature) := by
  rw [inflate_eq]
  dsimp only
  split
  · exact .refl
  · rename_i i _
    refine (moves_containerArg w s (Signature.callParams signature)).trans ?_
    refine (moves_askInts w (.arg i) s).trans ?_
    refine (moves_collectAll (fun id w' H => moves_materialize w' id)
      (w.askInts t (.arg i) s).1 _ _).trans ?_
    split
    · refine (moves_attachAll _ (fun p hp => Or.inl (Or.inr hp)) fun c hc => Or.inr hc).trans ?_
      exact (moves_bindLocal _ (t.query.definedLocal s) fun h hh => Or.inr hh).trans
        (moves_release _)
    · exact (moves_bindLocal _ (t.query.definedLocal s) fun h hh => Or.inr hh).trans
        (moves_release _)

theorem moves_showLayout (w : Work σ) (s : σ) :
    Moves t sites (∅, w) (∅, w.showLayout t s) := by
  refine (moves_askInts w (.arg 0) s).trans ?_
  refine (moves_collectAll (fun id w' H => moves_materialize w' id)
    (w.askInts t (.arg 0) s).1 _ _).trans ?_
  refine (moves_addRoots _ fun h hh => Or.inr hh).trans ?_
  exact (moves_bindLocal _ (t.query.receiver s) fun h hh => Or.inr hh).trans
    (moves_release _)

theorem moves_addView (w : Work σ) (s : σ) :
    Moves t sites (∅, w) (∅, w.addView t s) := by
  refine (moves_bound w (t.query.receiver s)).trans ?_
  refine (moves_bound w (t.query.argLocal s 0)).trans ?_
  exact (moves_attachAll w (fun p hp => Or.inl (Or.inr hp)) fun c hc => Or.inr hc).trans
    (moves_release _)

theorem moves_showWidget (w : Work σ) (s : σ) :
    Moves t sites (∅, w) (∅, w.showWidget t s) := by
  rw [showWidget_eq]
  refine (moves_bound w (t.query.argLocal s 0)).trans ?_
  refine (moves_foldl (fun h hh w' => moves_tagTree w' (Or.inr hh)) w).trans ?_
  refine (moves_addRoots _ fun h hh => Or.inr hh).trans ?_
  exact (moves_bindLocal _ (t.query.receiver s) fun h hh => Or.inr hh).trans
    (moves_release _)

theorem moves_showMenu {H : Set Nat} (type : MenuType) (w : Work σ) (id : Int64) :
    Moves t sites (H, w) (H, showMenu t type w id) := by
  unfold showMenu
  cases hget : (word32? id).bind w.menuTemplates.get? with
  | none => exact moves_note w _
  | some template =>
      obtain ⟨menuId, -, hmenu⟩ := Option.bind_eq_some_iff.mp hget
      dsimp only
      rw [Menu.snd_copy]
      exact .single (.menu type hmenu)

theorem moves_inflateMenu (w : Work σ) (s : σ) :
    Moves t sites (∅, w) (∅, w.inflateMenu t s) :=
  (moves_askInts w (.arg 0) s).trans (moves_foldl (fun id _ w' => moves_showMenu _ w' id) _)

theorem graspable_screens {H : Set Nat} {w : Work σ} {h : Nat}
    (hh : h ∈ (w.screens t.origin).toList) : Graspable t sites H w h := by
  unfold Assembler.screens at hh
  cases hroots : w.roots.get? t.origin with
  | some roots =>
      rw [hroots] at hh
      exact .screen hroots hh
  | none =>
      rw [hroots] at hh
      cases hh

theorem graspable_slotContainers {H : Set Nat} {w : Work σ} {ids : List Int64} {h : Nat}
    (hh : h ∈ w.slotContainers t ids) : Graspable t sites H w h := by
  rw [slotContainers_eq] at hh
  obtain ⟨id, -, hid⟩ := List.mem_flatMap.mp hh
  obtain ⟨root, hroot, hfind⟩ := List.mem_filterMap.mp hid
  exact (graspable_screens hroot).reaches (Scene.reaches_of_find? hfind)

theorem moves_addFragment {H : Set Nat} (tag : String) {containers : List Nat} (w : Work σ)
    (className : String) (hcontainers : ∀ c ∈ containers, c ∈ H) :
    Moves t sites (H, w) (H, addFragment t tag containers w className) := by
  refine .head (.slot className tag) ?_
  refine .head (.tag (Set.mem_insert _ _)) ?_
  refine Relation.ReflTransGen.trans ?_ (moves_drop _ (Set.subset_insert w.scene.size H))
  exact moves_attachAll _ (fun p hp => Or.inr (hcontainers p hp)) fun c hc =>
    List.mem_singleton.mp hc ▸ Or.inl rfl

theorem moves_addFragments (w : Work σ) (tag : String) (ids : List Int64)
    (classes : List String) :
    Moves t sites (∅, w) (∅, classes.foldl (addFragment t tag (w.slotContainers t ids)) w) := by
  have hgrasp : Moves t sites (∅, w) ({c | c ∈ w.slotContainers t ids}, w) :=
    moves_grasp fun c hc => graspable_slotContainers hc
  refine (hgrasp.trans (moves_foldl (fun className _ w' => ?_) w)).trans (moves_release _)
  exact moves_addFragment tag w' className fun c hc => hc

theorem moves_fragment (w : Work σ) (s : σ) (signature : String) :
    Moves t sites (∅, w) (∅, w.fragment t s signature) := by
  rw [fragment_eq]
  dsimp only
  split
  · exact .refl
  · rename_i i _
    let params := Signature.callParams signature
    refine (moves_askLabels w (.arg i) s).trans ?_
    refine (moves_askLabelsAt _ (params.idxOf? Toolkit.stringParam) s).trans ?_
    exact (moves_askIntsAt _ _ s).trans (moves_addFragments _ _ _ _)

theorem draftLocals_askLabels {σ : Type} (w : Work σ) (t : Task σ) (ref : ValueRef) (s : σ) :
    (w.askLabels t ref s).2.draftLocals = w.draftLocals := by
  unfold askLabels
  dsimp only
  split <;> rfl

theorem moves_describe (w : Work σ) {draft : Nat} (s : σ) {f : Dialog → Dialog}
    (hdraft : ∃ name, w.draftLocals.get? name = some draft)
    (hf : ∀ d, (f d).buttons = d.buttons) :
    Moves t sites (∅, w) (∅, (w.askLabels t (.arg 0) s).2.modifyDraft draft f) := by
  refine (moves_askLabels w (.arg 0) s).tail (.describe ?_ hf)
  rwa [draftLocals_askLabels]

theorem moves_addButton (w : Work σ) {draft : Nat} (s : σ) (role : ButtonRole)
    (hdraft : ∃ name, w.draftLocals.get? name = some draft) :
    let r := w.askLabels t (.arg 0) s
    let r' := r.2.askLabels t (.arg 1) s
    let button : Button := ⟨r'.2.scene.mint.next, .ofList r.1, role, .ofList r'.1⟩
    Moves t sites (∅, w) (∅,
      ({ r'.2 with scene := r'.2.scene.advanceMint 1 }).modifyDraft draft fun d =>
        { d with buttons := d.buttons ++ [button] }) := by
  refine (moves_askLabels w (.arg 0) s).trans ?_
  refine (moves_askLabels _ (.arg 1) s).tail (.button _ role _ ?_)
  rwa [draftLocals_askLabels, draftLocals_askLabels]

theorem moves_dialogCall (w : Work σ) (s : σ) (signature : String) {draft : Nat}
    (hdraft : ∃ name, w.draftLocals.get? name = some draft) :
    Moves t sites (∅, w) (∅, w.dialogCall t s signature draft) := by
  have hbind : ∀ {w' : Work σ}, Moves t sites (∅, w) (∅, w') →
      w'.draftLocals = w.draftLocals →
      Moves t sites (∅, w) (∅, w'.bindDraft (t.query.definedLocal s) draft) :=
    fun hmoves hsame => hmoves.trans (moves_bindDraft _ _ (Or.inr (by rwa [hsame])))
  unfold dialogCall
  dsimp only
  split
  · exact hbind (moves_describe w s hdraft fun _ => by rfl) (draftLocals_askLabels w t _ s)
  split
  · exact hbind (moves_describe w s hdraft fun _ => by rfl) (draftLocals_askLabels w t _ s)
  split
  · exact hbind (moves_describe w s hdraft fun _ => by rfl) (draftLocals_askLabels w t _ s)
  split
  · split
    · exact hbind .refl rfl
    · rename_i role _
      exact hbind (moves_addButton w s role hdraft)
        ((draftLocals_askLabels _ t _ s).trans (draftLocals_askLabels w t _ s))
  · exact hbind .refl rfl

theorem moves_setterCall (w : Work σ) (s : σ) (signature : String) :
    Moves t sites (∅, w) (∅, w.setterCall t s signature) := by
  have htargets : Moves t sites (∅, w) ({h | h ∈ w.setterTargets t s}, w) :=
    moves_grasp fun h hh => .bound (List.mem_filter.mp (setterTargets_eq t s w ▸ hh)).1
  have hteach : ∀ {w' : Work σ} {f : Widget → Widget},
      Moves t sites ({h | h ∈ w.setterTargets t s}, w) ({h | h ∈ w.setterTargets t s}, w') →
      (∀ e : Widget, e.Learns (f e)) →
      Moves t sites (∅, w) (∅, w'.modifyWidgets (w.setterTargets t s) f) :=
    fun hask hf => ((htargets.trans hask).trans
      (moves_modifyWidgets _ (fun h hh => hh) hf)).trans (moves_release _)
  rw [setterCall_eq]
  dsimp only
  split
  · exact .refl
  · split
    · exact .refl
    · exact hteach (moves_askLabels w (.arg 0) s)
        (foldl_related fun v _ e => Widget.learns_addText e _)
    · exact hteach (moves_askLabels w (.arg 0) s)
        (foldl_related fun v _ e => Widget.learns_addListener e v)
    · exact hteach (moves_askInts w (.arg 0) s)
        (foldl_related fun v _ e => Widget.learns_addMask e v)
    · exact hteach (moves_askLabels w (.arg 0) s)
        (foldl_related fun v _ e => Widget.learns_addImage e v)

theorem moves_call (w : Work σ) (s : σ) (signature : String) :
    Moves t sites (∅, w) (∅, w.call t s signature) := by
  rw [call_eq]
  split
  · rename_i draft hdraft
    obtain ⟨name, -, hname⟩ := Option.bind_eq_some_iff.mp hdraft
    exact moves_dialogCall w s signature ⟨name, hname⟩
  · exact moves_setterCall w s signature

/-- Every action is a sequence of moves. -/
theorem moves_perform (w : Work σ) {s : σ} (hs : s ∈ sites) (a : Action σ) :
    Moves t sites (∅, w) (∅, w.perform t s a) := by
  cases a with
  | await => exact .refl
  | lookup call className => exact moves_lookup w call className hs
  | childAt call => exact moves_childAt w s call
  | clear => exact moves_unbindLocal w _
  | allocate className => exact moves_allocate w className hs
  | inflate signature => exact moves_inflate w s signature
  | addView => exact moves_addView w s
  | adapterRow signature => exact moves_adapterRow w signature hs
  | listView => exact moves_listView w hs
  | showLayout => exact moves_showLayout w s
  | showWidget => exact moves_showWidget w s
  | inflateMenu => exact moves_inflateMenu w s
  | fragment signature => exact moves_fragment w s signature
  | call signature => exact moves_call w s signature
  | nothing => exact .refl

/-! ## Records of calls -/

omit [DecidableEq σ] in
/-- Taking note of a call only changes the record of calls. -/
theorem noteCall_eq (w : Work σ) (t : Task σ) (s : σ) :
    ∃ attribution, w.noteCall t s = { w with attribution } := by
  unfold noteCall
  split
  · split
    · exact ⟨_, rfl⟩
    · exact ⟨_, rfl⟩
  · exact ⟨_, rfl⟩

theorem moves_noteCall (w : Work σ) {s : σ} (hs : s ∈ sites) :
    Moves t sites (∅, w) (∅, w.noteCall t s) := by
  unfold noteCall
  split
  · rename_i htrack
    split
    · rename_i signature hsignature
      exact .single (.call hs htrack hsignature)
    · exact .refl
  · exact .refl

end UiRecovery.Work
