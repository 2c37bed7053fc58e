import UiRecovery.Proofs.Actions
import UiRecovery.Proofs.CopyLoop

/-!
# Access to what is there

`Access.Serves` says that an access shows the widgets that work can get
hold of. Then it makes no difference which access it is: each operation
comes to what it comes to with the plain one. In particular none of them
fails, and work ends early for one reason only, that the code at a site
does not fit together (`followM_eq`).

What work can get hold of is known from its moves. So an access serves with
respect to a property of hand and state that the moves keep, and each lemma
follows its operation with the hand that the lemma about its moves has.

Of the assembly itself, which shows a blank widget behind a handle that was
never issued, all of this is true whatever the state. `step_eq` and
`moves_run` are what later proofs use.
-/

namespace UiRecovery

/-- Where `I` holds of hand and state, the access shows what is behind the
handles in hand, and what the layouts hold. -/
structure Access.Serves {σ : Type} [DecidableEq σ] {m : Type → Type} [Monad m]
    (acc : Access σ m) (t : Task σ) (sites : List σ) (I : Set Nat × Work σ → Prop) : Prop where
  moves : ∀ {x y : Set Nat × Work σ}, I x → Work.Moves t sites x y → I y
  held : ∀ {H : Set Nat} {w : Work σ} {h : Nat}, I (H, w) → h ∈ H →
    acc.look w.scene.widgets h = pure (w.scene.widget h)
  layout : ∀ {H : Set Nat} {w : Work σ} {id : Int32} {layout : Layout} {h x : Nat}, I (H, w) →
    w.layouts.get? id = some layout → h ∈ layout.roots → w.scene.Reaches h x →
    acc.look w.scene.widgets x = pure (w.scene.widget x)

namespace Access.Serves

open Work

variable {σ : Type} [DecidableEq σ] {m : Type → Type} [Monad m] [LawfulMonad m]
  {acc : Access σ m} {t : Task σ} {sites : List σ} {I : Set Nat × Work σ → Prop}
  {H : Set Nat} {w : Work σ} (hacc : acc.Serves t sites I)

include hacc

/-! ## Widgets -/

omit [LawfulMonad m] in
theorem reached {h x : Nat} (hw : I (H, w)) (hh : h ∈ H) (hx : w.scene.Reaches h x) :
    acc.look w.scene.widgets x = pure (w.scene.widget x) :=
  hacc.held (hacc.moves hw (moves_insert ((Graspable.held hh).reaches hx))) (Set.mem_insert _ _)

theorem modifyWidgetM_eq {h : Nat} (hw : I (H, w)) (hh : h ∈ H) (f : Widget → Widget) :
    w.modifyWidgetM acc h f = pure (w.modifyWidget h f) := by
  unfold modifyWidgetM widget
  rw [hacc.held hw hh, pure_bind]
  rfl

theorem modifyWidgetsM_eq {hs : List Nat} {f : Widget → Widget} (hw : I (H, w))
    (hhs : ∀ h ∈ hs, h ∈ H) (hf : ∀ e : Widget, e.Learns (f e)) :
    w.modifyWidgetsM acc hs f = pure (w.modifyWidgets hs f) := by
  rw [modifyWidgets_eq]
  refine foldlM_eq_pure (P := fun w => I (H, w)) (fun h hh w' hw' => ?_) hw
  exact ⟨hacc.modifyWidgetM_eq hw' (hhs h hh) f,
    hacc.moves hw' (.single (.learn (hhs h hh) hf))⟩

theorem nameAfterM_eq {h : Nat} (hw : I (H, w)) (hh : h ∈ H) (name : Option String) :
    w.nameAfterM acc h name = pure (w.nameAfter h name) := by
  cases name with
  | none => rfl
  | some name => exact hacc.modifyWidgetM_eq hw hh _

theorem tagM_eq {h : Nat} (hw : I (H, w)) (hh : h ∈ H) (o : Origin) :
    w.tagM acc o h = pure (w.tag o h) := by
  unfold tagM widget
  rw [hacc.held hw hh, pure_bind]
  rfl

theorem tagTreeM_eq {h : Nat} (hw : I (H, w)) (hh : h ∈ H) :
    w.tagTreeM acc t.origin h = pure (w.tagTree t.origin h) := by
  have htree : I ({x | x ∈ w.scene.depthFirst h}, w) := by
    refine hacc.moves hw (moves_grasp fun x hx => ?_)
    exact (Graspable.held hh).reaches (Scene.reaches_of_mem_depthFirst hx)
  unfold tagTreeM
  rw [Scene.depthFirstM_eq fun x hx => hacc.reached hw hh hx, pure_bind, tagTree_eq]
  refine foldlM_eq_pure (P := fun w' => I ({x | x ∈ w.scene.depthFirst h}, w'))
    (fun x hx w' hw' => ?_) htree
  exact ⟨hacc.tagM_eq hw' hx t.origin, hacc.moves hw' (.single (.tag hx))⟩

theorem tagTreesM_eq {hs : List Nat} (hw : I (H, w)) (hhs : ∀ h ∈ hs, h ∈ H) :
    hs.foldlM (fun w h => w.tagTreeM acc t.origin h) w =
      pure (hs.foldl (fun w h => w.tagTree t.origin h) w) :=
  foldlM_eq_pure (P := fun w => I (H, w)) (fun h hh _ hw' =>
    ⟨hacc.tagTreeM_eq hw' (hhs h hh), hacc.moves hw' (moves_tagTree _ (hhs h hh))⟩) hw

theorem attachAllM_eq {parents children : List Nat} (hw : I (H, w))
    (hparents : ∀ p ∈ parents, p ∈ H) (hchildren : ∀ c ∈ children, c ∈ H) :
    w.attachAllM acc parents children = pure (w.attachAll parents children) := by
  have hmoves : ∀ p ∈ parents, ∀ c ∈ children, ∀ w' : Work σ,
      Moves t sites (H, w') (H, w'.attach p c) :=
    fun p hp c hc w' => moves_attach w' (hparents p hp) (hchildren c hc)
  rw [attachAll_eq]
  refine foldlM_eq_pure (P := fun w => I (H, w)) (fun p hp w' hw' => ⟨?_, ?_⟩) hw
  · refine foldlM_eq_pure (P := fun w => I (H, w)) (fun c hc w'' hw'' => ?_) hw'
    exact ⟨attachM_eq (hacc.held hw'' (hparents p hp)) c, hacc.moves hw'' (hmoves p hp c hc w'')⟩
  · exact hacc.moves hw' (moves_foldl (hmoves p hp) w')

/-! ## Several at once -/

/-- What a turn needs of the state is `Q`, what it needs in hand is `K`. -/
theorem collectM_eq {α : Type} {stepM : Work σ → α → m (Nat × Work σ)}
    {step : Work σ → α → Nat × Work σ} {Q : Work σ → Prop} {K : Set Nat} :
    ∀ {as : List α} {H : Set Nat} {w : Work σ},
      (∀ a ∈ as, ∀ w, Q w → Q (step w a).2 ∧ ∀ H, K ⊆ H → I (H, w) →
        stepM w a = pure (step w a) ∧
          Moves t sites (H, w) (insert (step w a).1 H, (step w a).2)) →
      Q w → K ⊆ H → I (H, w) → collectM stepM as w = pure (collect step as w)
  | [], _, _, _, _, _, _ => rfl
  | a :: as, H, w, hstep, hQ, hK, hw => by
      obtain ⟨hQ', hfirst⟩ := hstep a List.mem_cons_self w hQ
      obtain ⟨hpure, hmoves⟩ := hfirst H hK hw
      have hrest : collectM stepM as (step w a).2 = pure (collect step as (step w a).2) :=
        collectM_eq (fun b hb => hstep b (List.mem_cons_of_mem a hb)) hQ'
          (hK.trans (Set.subset_insert _ _)) (hacc.moves hw hmoves)
      rw [collectM, hpure, pure_bind]
      dsimp only
      rw [hrest, pure_bind]
      rfl

theorem collectAllM_eq {α : Type} {stepM : Work σ → α → m (List Nat × Work σ)}
    {step : Work σ → α → List Nat × Work σ}
    (hstep : ∀ a w H, I (H, w) → stepM w a = pure (step w a))
    (hmoves : ∀ a w H, Moves t sites (H, w) (H ∪ {h | h ∈ (step w a).1}, (step w a).2)) :
    ∀ (as : List α) {w : Work σ} {H : Set Nat}, I (H, w) →
      collectAllM stepM as w = pure (collectAll step as w)
  | [], _, _, _ => rfl
  | a :: as, w, H, hw => by
      have hrest := collectAllM_eq hstep hmoves as (hacc.moves hw (hmoves a w H))
      rw [collectAllM, hstep a w H hw, pure_bind]
      dsimp only
      rw [hrest, pure_bind]
      rfl

theorem materializeM_eq (hw : I (H, w)) (layoutId : Int64) :
    w.materializeM acc t.origin layoutId = pure (w.materialize t.origin layoutId) := by
  rw [materialize_eq]
  unfold materializeM
  cases hget : (word32? layoutId).bind w.layouts.get? with
  | none => rfl
  | some layout =>
      obtain ⟨id, -, hid⟩ := Option.bind_eq_some_iff.mp hget
      have hcopies : collectM (copyRootM acc) layout.roots w =
          pure (collect copyRoot layout.roots w) := by
        refine hacc.collectM_eq (Q := fun w' => w'.layouts.get? id = some layout) (K := ∅)
          (fun h hh w' hw' => ⟨hw', fun H _ hI => ⟨?_, .single (.copy hw' hh)⟩⟩)
          hid (Set.empty_subset H) hw
        unfold copyRootM
        rw [Scene.copyM_eq fun x hx => hacc.layout hI hw' hh hx, pure_bind]
        rfl
      let r := collect copyRoot layout.roots w
      have hmoves : Moves t sites (H, w) (H ∪ {h | h ∈ r.1}, r.2) :=
        moves_collect copyRoot (fun w' => w'.layouts.get? id = some layout) ∅ layout.roots
          (fun h hh w' hw' => ⟨hw', fun _ _ => .single (.copy hw' hh)⟩) w hid H (Set.empty_subset H)
      dsimp only
      rw [hcopies, pure_bind]
      rw [hacc.tagTreesM_eq (hacc.moves hw hmoves) fun c hc => Or.inr hc, pure_bind]

theorem materializeAllM_eq (hw : I (H, w)) (ids : List Int64) :
    collectAllM (materializeM acc t.origin) ids w =
      pure (collectAll (materialize t.origin) ids w) :=
  hacc.collectAllM_eq (fun id _ _ hw' => hacc.materializeM_eq hw' id)
    (fun id w' _ => moves_materialize w' id) ids hw

/-! ## Widgets from code -/

theorem lookupOneM_eq {s : σ} (className : String) {containers : List Nat} (id : Int32)
    (hs : s ∈ sites) (hw : I (H, w)) (hcontainers : ∀ c ∈ containers, c ∈ H) :
    w.lookupOneM acc t s className containers id =
      pure (w.lookupOne t s className containers id) := by
  have hfinish : ∀ r : Nat × Work σ, Moves t sites (H, w) (insert r.1 H, r.2) →
      (do let w ← r.2.nameAfterM acc r.1 (t.query.definedLocal s)
          return (r.1, ← w.tagM acc t.origin r.1)) =
        (pure (r.1, (r.2.nameAfter r.1 (t.query.definedLocal s)).tag t.origin r.1) :
          m (Nat × Work σ)) := fun r hr => by
    have hfound := hacc.moves hw hr
    rw [hacc.nameAfterM_eq hfound (Set.mem_insert _ _), pure_bind,
      hacc.tagM_eq (hacc.moves hfound (moves_nameAfter _ _ (Set.mem_insert _ _)))
        (Set.mem_insert _ _), pure_bind]
  rw [lookupOne_eq]
  unfold lookupOneM
  rw [findSomeM?_eq_pure (g := fun c => w.scene.find? c id) fun c hc =>
    Scene.findM_eq (fun x hx => hacc.reached hw (hcontainers c hc) hx) id, pure_bind]
  cases hfind : containers.findSome? fun c => w.scene.find? c id with
  | some h => exact hfinish (h, w) (moves_find hcontainers hfind)
  | none => exact hfinish _ (moves_mergedOr_lookup w id className hs)

theorem lookupM_eq {s : σ} (call : σ) (className : String) (hs : s ∈ sites) (hw : I (∅, w)) :
    w.lookupM acc t s call className = pure (w.lookup t s call className) := by
  have hasked := hacc.moves hw ((moves_askInts w (.arg 0) call).trans
    (moves_bound _ (t.query.receiver call)))
  rw [lookup_eq]
  unfold lookupM
  generalize w.askInts t (.arg 0) call = asked at hasked ⊢
  obtain ⟨ints, w₁⟩ := asked
  dsimp only at hasked ⊢
  let containers := w₁.bound (t.query.receiver call)
  have hlooked : collectM (lookupOneM acc t s className containers) (lookupIds ints) w₁ =
      pure (collect (lookupOne t s className containers) (lookupIds ints) w₁) := by
    refine hacc.collectM_eq (Q := fun _ => True) (fun id _ w' _ => ⟨trivial, fun H' hH' hw' => ?_⟩)
      trivial subset_rfl hasked
    have hcontainers : ∀ c ∈ containers, c ∈ H' := fun c hc => hH' (Or.inr hc)
    exact ⟨hacc.lookupOneM_eq className id hs hw' hcontainers,
      moves_lookupOne w' className id hs hcontainers⟩
  rw [hlooked, pure_bind]

theorem childAtM_eq (s call : σ) (hw : I (∅, w)) :
    w.childAtM acc t s call = pure (w.childAt t s call) := by
  have hbound := hacc.moves hw (moves_bound w (t.query.receiver call))
  rw [childAt_eq]
  unfold childAtM
  rw [mapM_eq_pure (g := w.scene.children) fun h hh =>
    Scene.childrenM_eq (hacc.held hbound (Or.inr hh)), pure_bind, List.flatMap_def]

theorem allocateM_eq {s : σ} (className : String) (hs : s ∈ sites) (hw : I (∅, w)) :
    w.allocateM acc t s className = pure (w.allocate t s className) := by
  rw [allocate_eq]
  unfold allocateM
  dsimp only
  split
  · rfl
  split
  · have hmade := hacc.moves hw (moves_mergedOr_allocation w className
      (fun w => w.kindOf className) (kindOf_bare w className) hs)
    rw [hacc.nameAfterM_eq hmade (Set.mem_insert _ _), pure_bind,
      hacc.tagM_eq (hacc.moves hmade (moves_nameAfter _ _ (Set.mem_insert _ _)))
        (Set.mem_insert _ _), pure_bind]
  · rfl

theorem listViewM_eq {s : σ} (hs : s ∈ sites) (hw : I (∅, w)) :
    w.listViewM acc t s = pure (w.listView t s) := by
  have hmade := hacc.moves hw
    (moves_mergedOr_allocation w Toolkit.listClass (fun _ => .group []) rfl hs)
  unfold listViewM
  dsimp only
  rw [hacc.tagM_eq hmade (Set.mem_insert _ _), pure_bind]
  rfl

theorem adapterRowM_eq {s : σ} (signature : String) (hs : s ∈ sites) (hw : I (∅, w)) :
    w.adapterRowM acc t s signature = pure (w.adapterRow t s signature) := by
  have hmade := hacc.moves hw
    (moves_mergedOr_allocation w Toolkit.viewClass (fun _ => .view) rfl hs)
  have htagged := hacc.moves hmade (.single (.tag (Set.mem_insert _ _)))
  have hparents := hacc.moves htagged (moves_containerArg _ s (Signature.callParams signature))
  unfold adapterRowM
  dsimp only
  rw [hacc.tagM_eq hmade (Set.mem_insert _ _), pure_bind,
    hacc.attachAllM_eq hparents (fun p hp => Or.inr hp)
      (fun c hc => Or.inl (Or.inl (List.mem_singleton.mp hc))), pure_bind]
  rfl

/-! ## Widgets from layouts -/

theorem inflateM_eq (s : σ) (signature : String) (hw : I (∅, w)) :
    w.inflateM acc t s signature = pure (w.inflate t s signature) := by
  rw [inflate_eq]
  unfold inflateM
  dsimp only
  cases (Signature.callParams signature).idxOf? Toolkit.intParam with
  | none => rfl
  | some i =>
      have hasked := hacc.moves hw ((moves_containerArg w s (Signature.callParams signature)).trans
        (moves_askInts w (.arg i) s))
      have hmade := hacc.moves hasked (moves_collectAll (fun id w' _ => moves_materialize w' id)
        (w.askInts t (.arg i) s).1 _ _)
      dsimp only
      rw [hacc.materializeAllM_eq hasked, pure_bind]
      split
      · rw [hacc.attachAllM_eq hmade (fun p hp => Or.inl (Or.inr hp)) (fun c hc => Or.inr hc),
          pure_bind]
      · rw [pure_bind]

theorem showLayoutM_eq (s : σ) (hw : I (∅, w)) :
    w.showLayoutM acc t s = pure (w.showLayout t s) := by
  unfold showLayoutM
  dsimp only
  rw [hacc.materializeAllM_eq (hacc.moves hw (moves_askInts w (.arg 0) s)), pure_bind]
  rfl

theorem addViewM_eq (s : σ) (hw : I (∅, w)) : w.addViewM acc t s = pure (w.addView t s) := by
  have hbound := hacc.moves hw ((moves_bound w (t.query.receiver s)).trans
    (moves_bound w (t.query.argLocal s 0)))
  exact hacc.attachAllM_eq hbound (fun p hp => Or.inl (Or.inr hp)) fun c hc => Or.inr hc

theorem showWidgetM_eq (s : σ) (hw : I (∅, w)) :
    w.showWidgetM acc t s = pure (w.showWidget t s) := by
  have hbound := hacc.moves hw (moves_bound w (t.query.argLocal s 0))
  rw [showWidget_eq]
  unfold showWidgetM
  dsimp only
  rw [hacc.tagTreesM_eq hbound fun h hh => Or.inr hh, pure_bind]

/-! ## Fragments -/

theorem slotContainersM_eq (ids : List Int64) (hw : I (∅, w)) :
    w.slotContainersM acc t ids = pure (w.slotContainers t ids) := by
  have hscreens : I ({h | h ∈ (w.screens t.origin).toList}, w) :=
    hacc.moves hw (moves_grasp fun h hh => graspable_screens hh)
  have hfind : ∀ id : Int32, ∀ h ∈ (w.screens t.origin).toList,
      w.scene.findM acc.look h id = pure (w.scene.find? h id) :=
    fun id h hh => Scene.findM_eq (fun x hx => hacc.reached hscreens hh hx) id
  rw [slotContainers_eq]
  unfold slotContainersM
  rw [mapM_eq_pure fun id _ => mapM_eq_pure (hfind id), pure_bind]
  simp only [List.flatMap_map, List.filterMap_map, Function.comp_def]

theorem addFragmentM_eq (tag : String) {containers : List Nat} (className : String)
    (hw : I (H, w)) (hcontainers : ∀ c ∈ containers, c ∈ H) :
    w.addFragmentM acc t tag containers className =
      pure (w.addFragment t tag containers className) := by
  have hmade := hacc.moves hw (.single (.slot className tag))
  have htagged := hacc.moves hmade (.single (.tag (Set.mem_insert _ _)))
  unfold addFragmentM
  dsimp only
  rw [show (w.createWidget Widget.missingId className (.fragment [] .transaction tag)).1 =
    w.scene.size from rfl, hacc.tagM_eq hmade (Set.mem_insert _ _), pure_bind,
    hacc.attachAllM_eq htagged (fun p hp => Or.inr (hcontainers p hp))
      (fun c hc => Or.inl (List.mem_singleton.mp hc))]
  rfl

theorem addFragmentsM_eq (tag : String) (ids : List Int64) (classes : List String)
    (hw : I (∅, w)) :
    (do let containers ← w.slotContainersM acc t ids
        classes.foldlM (addFragmentM acc t tag containers) w) =
      pure (classes.foldl (addFragment t tag (w.slotContainers t ids)) w) := by
  have hslots : I ({c | c ∈ w.slotContainers t ids}, w) :=
    hacc.moves hw (moves_grasp fun c hc => graspable_slotContainers hc)
  rw [hacc.slotContainersM_eq ids hw, pure_bind]
  refine foldlM_eq_pure (P := fun w' => I ({c | c ∈ w.slotContainers t ids}, w'))
    (fun className _ w' hw' => ?_) hslots
  exact ⟨hacc.addFragmentM_eq tag className hw' fun c hc => hc,
    hacc.moves hw' (moves_addFragment tag w' className fun c hc => hc)⟩

theorem fragmentM_eq (s : σ) (signature : String) (hw : I (∅, w)) :
    w.fragmentM acc t s signature = pure (w.fragment t s signature) := by
  rw [fragment_eq]
  unfold fragmentM
  let params := Signature.callParams signature
  dsimp only
  cases params.findIdx? fun p => p ≠ Toolkit.intParam ∧ p ≠ Toolkit.stringParam with
  | none => rfl
  | some i =>
      have hlabels := hacc.moves hw (moves_askLabels w (.arg i) s)
      have htags := hacc.moves hlabels
        (moves_askLabelsAt _ (params.idxOf? Toolkit.stringParam) s)
      exact hacc.addFragmentsM_eq _ _ _ (hacc.moves htags (moves_askIntsAt _ _ s))

/-! ## Setters -/

theorem setterTargetsM_eq (s : σ) (hw : I (∅, w)) :
    w.setterTargetsM acc t s = pure (w.setterTargets t s) := by
  have hbound := hacc.moves hw (moves_bound w (t.query.receiver s))
  have hread : ∀ h ∈ w.bound (t.query.receiver s),
      (do return (h, ← acc.widget w h) : m (Nat × Widget)) = pure (h, w.scene.widget h) :=
    fun h hh => by
      unfold widget
      rw [hacc.held hbound (Or.inr hh), pure_bind]
  rw [setterTargets_eq]
  unfold setterTargetsM
  rw [mapM_eq_pure hread, pure_bind, List.filter_map, List.map_map]
  simp only [Function.comp_def, List.map_id']

theorem setterCallM_eq (s : σ) (signature : String) (hw : I (∅, w)) :
    w.setterCallM acc t s signature = pure (w.setterCall t s signature) := by
  have htargets : I ({h | h ∈ w.setterTargets t s}, w) :=
    hacc.moves hw (moves_grasp fun h hh =>
      .bound (List.mem_filter.mp (setterTargets_eq t s w ▸ hh)).1)
  rw [setterCall_eq]
  unfold setterCallM
  rw [hacc.setterTargetsM_eq s hw, pure_bind]
  dsimp only
  split
  · rfl
  · cases Setter.ofSignature? signature with
    | none => rfl
    | some setter =>
        have hlabels := hacc.moves htargets (moves_askLabels w (.arg 0) s)
        have hints := hacc.moves htargets (moves_askInts w (.arg 0) s)
        cases setter with
        | text attr =>
            exact hacc.modifyWidgetsM_eq hlabels (fun h hh => hh)
              (foldl_related fun v _ e => Widget.learns_addText e _)
        | listener =>
            exact hacc.modifyWidgetsM_eq hlabels (fun h hh => hh)
              (foldl_related fun v _ e => Widget.learns_addListener e v)
        | inputType =>
            exact hacc.modifyWidgetsM_eq hints (fun h hh => hh)
              (foldl_related fun v _ e => Widget.learns_addMask e v)
        | image =>
            exact hacc.modifyWidgetsM_eq hlabels (fun h hh => hh)
              (foldl_related fun v _ e => Widget.learns_addImage e v)

theorem callM_eq (s : σ) (signature : String) (hw : I (∅, w)) :
    w.callM acc t s signature = pure (w.call t s signature) := by
  rw [call_eq]
  unfold callM
  cases w.draftOf? (t.query.receiver s) with
  | some draft => rfl
  | none => exact hacc.setterCallM_eq s signature hw

/-! ## All sites -/

theorem otherCallM_eq (s : σ) (signature : String) (hw : I (∅, w)) :
    w.otherCallM acc t s signature = pure (w.perform t s (Query.callAction signature)) := by
  unfold otherCallM Query.callAction
  split
  · exact hacc.showLayoutM_eq s hw
  split
  · exact hacc.showWidgetM_eq s hw
  split
  · rfl
  split
  · exact hacc.fragmentM_eq s signature hw
  · exact hacc.callM_eq s signature hw

/-- Work at a site fails where the code there does not fit together, before
it has changed anything. Else it is done. -/
theorem followM_eq {s : σ} (hs : s ∈ sites) (hw : I (∅, w)) :
    w.followM acc t s =
      match t.query.action s with
      | .ok a => pure (w.perform t s a)
      | .error e => acc.fail e w := by
  unfold followM Query.action
  cases t.query.dispatch s with
  | none =>
      cases t.query.callSignature s with
      | none => rfl
      | some signature => exact hacc.otherCallM_eq s signature hw
  | some idiom =>
      cases idiom with
      | findViewById =>
          dsimp only
          cases t.query.constructionOf s with
          | error e => rfl
          | ok construction =>
              unfold demand lookupPairM
              by_cases hsame : construction = s
              · cases t.query.viewLookupOf s with
                | error e => simp only [if_pos hsame, demand, bind, Except.bind]
                | ok call =>
                    simp only [if_pos hsame, demand, bind, Except.bind]
                    exact hacc.lookupM_eq call _ hs hw
              · simp only [if_neg hsame, bind, Except.bind]
                rfl
      | getChildAt =>
          dsimp only
          cases t.query.childConstructionOf s with
          | error e => rfl
          | ok construction =>
              by_cases hsame : construction = s
              · simp only [if_pos hsame, demand, bind, Except.bind]
                exact hacc.childAtM_eq s _ hw
              · simp only [if_neg hsame, demand, bind, Except.bind]
                rfl
      | nullAssignment => rfl
      | newExpression => exact hacc.allocateM_eq _ hs hw
      | inflate =>
          cases t.query.callSignature s with
          | none => rfl
          | some signature => exact hacc.inflateM_eq s signature hw
      | addView =>
          cases t.query.callSignature s with
          | none => rfl
          | some signature => exact hacc.addViewM_eq s hw
      | getView =>
          cases t.query.callSignature s with
          | none => rfl
          | some signature => exact hacc.adapterRowM_eq signature hs hw
      | getListView =>
          cases t.query.callSignature s with
          | none => rfl
          | some signature => exact hacc.listViewM_eq hs hw

end Access.Serves

/-! ## Runs -/

namespace Work

variable {σ : Type} [DecidableEq σ] {t : Task σ} {sites : List σ}

/-- The assembly has something to show behind every handle. -/
theorem running_serves : Access.running.Serves t sites fun _ => True where
  moves _ _ := trivial
  held _ _ := rfl
  layout _ _ _ _ := rfl

theorem step_eq (w : Work σ) (t : Task σ) (s : σ) :
    w.step t s =
      match t.query.action s with
      | .ok a => ((w.noteCall t s).perform t s a, none)
      | .error e => (w.noteCall t s, some e) := by
  unfold step stepM
  rw [running_serves.followM_eq (List.mem_singleton_self s) trivial]
  cases t.query.action s with
  | ok a => rfl
  | error e => rfl

theorem step_of_action {s : σ} {a : Action σ} (haction : t.query.action s = .ok a) (w : Work σ) :
    w.step t s = ((w.noteCall t s).perform t s a, none) := by
  rw [step_eq, haction]

theorem moves_step (w : Work σ) {s : σ} (hs : s ∈ sites) :
    Moves t sites (∅, w) (∅, (w.step t s).1) := by
  rw [step_eq]
  cases t.query.action s with
  | ok a => exact (moves_noteCall w hs).trans (moves_perform _ hs a)
  | error e => exact moves_noteCall w hs

/-- A run over sites is a sequence of moves, wherever it ends. -/
theorem moves_run : ∀ (rest : List σ), (∀ s ∈ rest, s ∈ sites) → ∀ w : Work σ,
    Moves t sites (∅, w) (∅, (run t rest w).1)
  | [], _, _ => .refl
  | s :: rest, hsub, w => by
      have hstep := moves_step (t := t) w (hsub s List.mem_cons_self)
      have hrest := moves_run rest fun x hx => hsub x (List.mem_cons_of_mem s hx)
      rw [run]
      cases hresult : w.step t s with
      | mk w' failure =>
          rw [hresult] at hstep
          cases failure with
          | none => exact hstep.trans (hrest w')
          | some e => exact hstep

/-- What every site keeps is kept by a run, wherever it ends. -/
theorem run_keeps {P : Work σ → Prop} (hstep : ∀ (w : Work σ) (s : σ), P w → P (w.step t s).1) :
    ∀ (sites : List σ) {w : Work σ}, P w → P (run t sites w).1
  | [], _, hw => hw
  | s :: rest, w, hw => by
      have hnext := hstep w s hw
      rw [run]
      cases hresult : w.step t s with
      | mk w' failure =>
          rw [hresult] at hnext
          cases failure with
          | none => exact run_keeps hstep rest hnext
          | some e => exact hnext

end Work

end UiRecovery
