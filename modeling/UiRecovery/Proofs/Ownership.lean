import UiRecovery.Proofs.Growth
import UiRecovery.Proofs.Handles
import UiRecovery.Proofs.Roots

/-!
# Every widget has an owner

Work attributes each widget that it makes to the component it is done for,
before it goes on to anything that depends on it. `Makes o w w'` says so of
a stretch of work: whatever is new in `w'` belongs to `o`. It holds of
every action, as each creation is followed by a tag, and the tag of a
layout's copy reaches all of the copy (`makes_materialize`).

`Moves` cannot say this: between the move that makes a widget and the one
that tags it, the widget has no owner. So the actions are followed once
more, with all that makes nothing taken from their moves.
-/

namespace UiRecovery

/-! ## Growth keeps owners -/

namespace Scene

theorem Grows.size_le {s s' : Scene} (h : s.Grows s') : s.size ≤ s'.size := by
  refine Nat.le_of_not_lt fun hlt => ?_
  have hsome : s.get? s'.size = some (s.widgets[s'.size]) := List.getElem?_eq_getElem hlt
  obtain ⟨e', he', -⟩ := h _ _ hsome
  exact Nat.lt_irrefl _ (lt_size_of_get? he')

theorem Grows.widget {s s' : Scene} (h : s.Grows s') {x : Nat} (hx : x < s.size) :
    (s.widget x).Grows (s'.widget x) := by
  have hsome : s.get? x = some (s.widgets[x]) := List.getElem?_eq_getElem hx
  obtain ⟨e', he', hgrows⟩ := h _ _ hsome
  rw [Scene.widget, Scene.widget, hsome, he']
  exact hgrows

theorem Grows.guid_widget {s s' : Scene} (h : s.Grows s') {x : Nat} (hx : x < s.size) :
    (s'.widget x).guid = (s.widget x).guid :=
  (h.widget hx).guid

theorem Grows.children_subset {s s' : Scene} (h : s.Grows s') (x : Nat) :
    s.children x ⊆ s'.children x := by
  intro c hc
  obtain ⟨e, he, hce⟩ := mem_children.mp hc
  obtain ⟨e', he', hgrows⟩ := h x e he
  exact mem_children.mpr ⟨e', he', hgrows.kind.children_subset hce⟩

theorem Grows.reaches {s s' : Scene} (h : s.Grows s') {x y : Nat} (hxy : s.Reaches x y) :
    s'.Reaches x y :=
  Relation.ReflTransGen.mono (fun p _ hc => h.children_subset p hc) _ _ hxy

end Scene

theorem OrderedMap.Extends.mem_tagsOf {κ : Type} [DecidableEq κ]
    {m n : OrderedMap κ (OrderedSet Origin)} (h : m.Extends n) {k : κ} {o : Origin}
    (ho : o ∈ m.tagsOf k) : o ∈ n.tagsOf k := by
  obtain ⟨s, hs, hos⟩ := OrderedMap.mem_tagsOf.mp ho
  obtain ⟨t, ht, hst⟩ := h.members k s hs
  exact OrderedMap.mem_tagsOf.mpr ⟨t, ht, hst.subset hos⟩

theorem Assembler.Grows.mem_originsOf {σ : Type} [DecidableEq σ] {a b : Assembler σ}
    (h : a.Grows b) {x : Nat} {o : Origin} (hx : x < a.scene.size)
    (ho : o ∈ a.attribution.originsOf (a.scene.widget x).guid) :
    o ∈ b.attribution.originsOf (b.scene.widget x).guid := by
  rw [h.scene.guid_widget hx]
  exact h.elements.mem_tagsOf ho

namespace Work

/-! ## What the operations give, and what they leave of the scene -/

section

variable {σ : Type}

@[simp]
theorem fst_askInts (w : Work σ) (t : Task σ) (ref : ValueRef) (s : σ) :
    (w.askInts t ref s).1 = (t.oracle ref s).ints := by
  unfold askInts
  dsimp only
  split <;> rfl

@[simp]
theorem fst_askLabels (w : Work σ) (t : Task σ) (ref : ValueRef) (s : σ) :
    (w.askLabels t ref s).1 = (t.oracle ref s).labels := by
  unfold askLabels
  dsimp only
  split <;> rfl

@[simp]
theorem scene_askInts (w : Work σ) (t : Task σ) (ref : ValueRef) (s : σ) :
    (w.askInts t ref s).2.scene = w.scene := by
  unfold askInts
  dsimp only
  split <;> rfl

@[simp]
theorem scene_askLabels (w : Work σ) (t : Task σ) (ref : ValueRef) (s : σ) :
    (w.askLabels t ref s).2.scene = w.scene := by
  unfold askLabels
  dsimp only
  split <;> rfl

@[simp]
theorem scene_bindLocal (w : Work σ) (name : Option String) (hs : List Nat) :
    (w.bindLocal name hs).scene = w.scene := by
  cases name <;> rfl

/-- What locals denote after one of them is bound. -/
theorem bound_bindLocal (w : Work σ) (name : String) (hs : List Nat) (name' : String) :
    (w.bindLocal (some name) hs).bound (some name') =
      if name' = name then (OrderedSet.ofList hs).toList else w.bound (some name') := by
  unfold bindLocal Work.bound
  dsimp only [Option.bind_some]
  by_cases hempty : (OrderedSet.ofList hs).isEmpty
  · rw [if_pos hempty, OrderedMap.get?_erase]
    by_cases hname : name' = name
    · rw [if_pos hname, if_pos hname]
      exact (List.isEmpty_iff.mp hempty).symm
    · rw [if_neg hname, if_neg hname]
  · rw [if_neg hempty, OrderedMap.get?_insert]
    by_cases hname : name' = name
    · rw [if_pos hname, if_pos hname]
    · rw [if_neg hname, if_neg hname]

@[simp]
theorem scene_unbindLocal (w : Work σ) (name : Option String) :
    (w.unbindLocal name).scene = w.scene := by
  cases name <;> rfl

@[simp]
theorem scene_bindDraft (w : Work σ) (name : Option String) (draft : Nat) :
    (w.bindDraft name draft).scene = w.scene := by
  cases name <;> rfl

@[simp]
theorem scene_addRoots (w : Work σ) (o : Origin) (hs : List Nat) :
    (w.addRoots o hs).scene = w.scene := by
  unfold addRoots
  split <;> rfl

@[simp]
theorem scene_tagTree (w : Work σ) (o : Origin) (h : Nat) : (w.tagTree o h).scene = w.scene := by
  rw [tagTree_eq]
  have hstep : ∀ (w : Work σ) (x : Nat), (w.tag o x).scene = w.scene := fun _ _ => rfl
  exact foldl_keeps (f := fun w => w.scene) hstep _ w

@[simp]
theorem size_modifyWidgets (w : Work σ) (hs : List Nat) (f : Widget → Widget) :
    (w.modifyWidgets hs f).scene.size = w.scene.size := by
  rw [modifyWidgets_eq]
  exact foldl_keeps (f := fun w => w.scene.size) (fun w h => w.scene.size_modify h f) hs w

@[simp]
theorem size_nameAfter (w : Work σ) (h : Nat) (name : Option String) :
    (w.nameAfter h name).scene.size = w.scene.size := by
  cases name with
  | none => rfl
  | some name => exact Scene.size_modify ..

@[simp]
theorem size_attach (w : Work σ) (parent child : Nat) :
    (w.attach parent child).scene.size = w.scene.size := by
  rw [attach_eq]
  split
  · rfl
  · rcases w.scene.addChild_cases parent child with hsame | ⟨e, -, -, herr⟩ | ⟨-, hok⟩
    · rw [hsame]
    · rw [herr]
      rfl
    · rw [hok]
      exact Scene.size_modify ..

@[simp]
theorem size_attachAll (w : Work σ) (parents children : List Nat) :
    (w.attachAll parents children).scene.size = w.scene.size := by
  rw [attachAll_eq]
  exact foldl_keeps (f := fun w => w.scene.size) (fun w p =>
    foldl_keeps (f := fun w => w.scene.size) (fun w c => w.size_attach p c) children w) parents w

end

/-! ## Making widgets -/

variable {σ : Type} [DecidableEq σ] {t : Task σ} {o : Origin} {w w' w'' : Work σ}

/-- `w'` has all that `w` has, and what is new in it belongs to `o`. -/
structure Makes (o : Origin) (w w' : Work σ) : Prop where
  grows : w.toAssembler.Grows w'.toAssembler
  owned : ∀ h, w.scene.size ≤ h → h < w'.scene.size →
    o ∈ w'.attribution.originsOf (w'.scene.widget h).guid

theorem Makes.refl (o : Origin) (w : Work σ) : Makes o w w :=
  ⟨.refl _, fun _ hlow hhigh => absurd hhigh (Nat.not_lt_of_le hlow)⟩

theorem Makes.trans (h : Makes o w w') (h' : Makes o w' w'') : Makes o w w'' where
  grows := h.grows.trans h'.grows
  owned x hlow hhigh := by
    by_cases hx : x < w'.scene.size
    · exact h'.grows.mem_originsOf hx (h.owned x hlow hx)
    · exact h'.owned x (Nat.le_of_not_lt hx) hhigh

instance : IsPreorder (Work σ) (Makes o) where
  refl := .refl o
  trans _ _ _ := .trans

/-- Moves after which the scene has as many widgets as before. -/
theorem Moves.makes {sites : List σ} {H H' : Set Nat} (h : Moves t sites (H, w) (H', w'))
    (hsize : w'.scene.size = w.scene.size) : Makes o w w' :=
  ⟨h.grows, fun _ hlow hhigh => absurd (hsize ▸ hhigh) (Nat.not_lt_of_le hlow)⟩

/-- The one widget that may be new is tagged. -/
theorem makes_tag {r : Nat × Work σ} (hgrows : w.toAssembler.Grows r.2.toAssembler)
    (hnew : ∀ h, w.scene.size ≤ h → h < r.2.scene.size → h = r.1) :
    Makes o w (r.2.tag o r.1) where
  grows := hgrows.trans
    { Assembler.Grows.refl _ with elements := OrderedMap.extends_tag _ _ _ }
  owned h hlow hhigh := by
    rw [hnew h hlow hhigh]
    exact OrderedMap.mem_tagsOf_tag.mpr (Or.inr ⟨rfl, rfl⟩)

theorem eq_of_mergedOr {key : MergeKey σ} {create : Work σ → Nat × Work σ}
    (hhandle : (create w).1 = w.scene.size) (hsize : (create w).2.scene.size = w.scene.size + 1) :
    ∀ h, w.scene.size ≤ h → h < (w.mergedOr key create).2.scene.size →
      h = (w.mergedOr key create).1 := by
  intro h hlow hhigh
  unfold mergedOr at hhigh ⊢
  cases hget : w.merged.get? key with
  | some x =>
      rw [hget] at hhigh
      exact absurd hhigh (Nat.not_lt_of_le hlow)
  | none =>
      rw [hget] at hhigh
      have hlt : h < (create w).2.scene.size := hhigh
      show h = (create w).1
      omega

/-! ## Steps that make nothing -/

variable (t) (w)

theorem makes_askInts (ref : ValueRef) (s : σ) : Makes t.origin w (w.askInts t ref s).2 := by
  have hmoves : Moves t [] (∅, w) (∅, (w.askInts t ref s).2) := moves_askInts w ref s
  exact hmoves.makes (by simp)

theorem makes_askLabels (ref : ValueRef) (s : σ) : Makes t.origin w (w.askLabels t ref s).2 := by
  have hmoves : Moves t [] (∅, w) (∅, (w.askLabels t ref s).2) := moves_askLabels w ref s
  exact hmoves.makes (by simp)

theorem makes_askIntsAt (position : Option Nat) (s : σ) :
    Makes t.origin w (w.askIntsAt t position s).2 := by
  cases position with
  | none => exact .refl _ w
  | some i => exact makes_askInts t w (.arg i) s

theorem makes_askLabelsAt (position : Option Nat) (s : σ) :
    Makes t.origin w (w.askLabelsAt t position s).2 := by
  cases position with
  | none => exact .refl _ w
  | some i => exact makes_askLabels t w (.arg i) s

theorem makes_bindLocal (name : Option String) (hs : List Nat) :
    Makes t.origin w (w.bindLocal name hs) := by
  have hmoves : Moves t [] (Set.univ, w) (Set.univ, w.bindLocal name hs) :=
    moves_bindLocal w name fun _ _ => Set.mem_univ _
  exact hmoves.makes (by simp)

theorem makes_attachAll (parents children : List Nat) :
    Makes t.origin w (w.attachAll parents children) := by
  have hmoves : Moves t [] (Set.univ, w) (Set.univ, w.attachAll parents children) :=
    moves_attachAll w (fun _ _ => Set.mem_univ _) fun _ _ => Set.mem_univ _
  exact hmoves.makes (by simp)

theorem size_showMenu {σ : Type} (t : Task σ) (w : Work σ) (type : MenuType) (id : Int64) :
    (showMenu t type w id).scene.size = w.scene.size := by
  unfold showMenu
  split <;> rfl

theorem size_inflateMenu {σ : Type} (t : Task σ) (w : Work σ) (s : σ) :
    (w.inflateMenu t s).scene.size = w.scene.size := by
  let type := MenuType.ofCallback (t.query.methodOf s)
  have hloop := foldl_keeps (f := fun w => w.scene.size) (fun w id => size_showMenu t w type id)
    (w.askInts t (.arg 0) s).1 (w.askInts t (.arg 0) s).2
  exact hloop.trans (congrArg Scene.size (w.scene_askInts t (.arg 0) s))

theorem size_showWidget {σ : Type} (t : Task σ) (w : Work σ) (s : σ) :
    (w.showWidget t s).scene.size = w.scene.size := by
  simp only [showWidget_eq, scene_bindLocal, scene_addRoots]
  exact foldl_keeps (f := fun w => w.scene.size) (fun w h => by simp) _ w

theorem size_dialogCall {σ : Type} (t : Task σ) (w : Work σ) (s : σ) (signature : String)
    (draft : Nat) : (w.dialogCall t s signature draft).scene.size = w.scene.size := by
  unfold dialogCall
  dsimp only
  rw [scene_bindDraft]
  split
  · exact congrArg Scene.size (w.scene_askLabels t (.arg 0) s)
  split
  · exact congrArg Scene.size (w.scene_askLabels t (.arg 0) s)
  split
  · exact congrArg Scene.size (w.scene_askLabels t (.arg 0) s)
  split
  · split
    · rfl
    · show ((w.askLabels t (.arg 0) s).2.askLabels t (.arg 1) s).2.scene.size = _
      rw [scene_askLabels, scene_askLabels]
  · rfl

theorem size_setterCall {σ : Type} (t : Task σ) (w : Work σ) (s : σ) (signature : String) :
    (w.setterCall t s signature).scene.size = w.scene.size := by
  rw [setterCall_eq]
  dsimp only
  split
  · rfl
  · split <;> simp

theorem size_call {σ : Type} (t : Task σ) (w : Work σ) (s : σ) (signature : String) :
    (w.call t s signature).scene.size = w.scene.size := by
  rw [call_eq]
  split
  · exact size_dialogCall ..
  · exact size_setterCall ..

/-! ## Steps that make widgets -/

theorem makes_lookupOne (s : σ) (className : String) (containers : List Nat) (id : Int32) :
    Makes t.origin w (lookupOne t s className containers w id).2 := by
  have hfinish : ∀ r : Nat × Work σ, Moves t [s] (Set.univ, w) (Set.univ, r.2) →
      (∀ h, w.scene.size ≤ h → h < r.2.scene.size → h = r.1) →
      Makes t.origin w ((r.2.nameAfter r.1 (t.query.definedLocal s)).tag t.origin r.1) := by
    intro r hmoves hnew
    have hnamed : Moves t [s] (Set.univ, r.2)
        (Set.univ, r.2.nameAfter r.1 (t.query.definedLocal s)) :=
      moves_nameAfter r.2 _ (Set.mem_univ _)
    refine makes_tag (r := (r.1, r.2.nameAfter r.1 (t.query.definedLocal s)))
      (Moves.grows (hmoves.trans hnamed)) fun h hlow hhigh => hnew h hlow ?_
    rwa [size_nameAfter] at hhigh
  rw [lookupOne_eq]
  cases containers.findSome? fun c => w.scene.find? c id with
  | some h => exact hfinish (h, w) .refl fun h hlow hhigh => absurd hhigh (Nat.not_lt_of_le hlow)
  | none =>
      let r := w.mergedOr (.lookup s id) fun w => w.createWidget id className (w.kindOf className)
      have hmoves : Moves t [s] (Set.univ, w) (insert r.1 Set.univ, r.2) :=
        moves_mergedOr_lookup w id className List.mem_cons_self
      rw [Set.insert_eq_of_mem (Set.mem_univ _)] at hmoves
      exact hfinish r hmoves (eq_of_mergedOr rfl (Scene.size_create ..))

theorem makes_allocation (s : σ) (className : String) (kind : Work σ → WidgetKind)
    (hkind : (kind w).bare = kind w) (name : Option String) :
    let r := w.mergedOr (.allocation s) fun w => w.createDynamic className (kind w)
    Makes t.origin w ((r.2.nameAfter r.1 name).tag t.origin r.1) := by
  intro r
  have hmoves : Moves t [s] (∅, w) (insert r.1 ∅, r.2) :=
    moves_mergedOr_allocation w className kind hkind (List.mem_singleton.mpr rfl)
  have hnamed : Moves t [s] (insert r.1 ∅, r.2) (insert r.1 ∅, r.2.nameAfter r.1 name) :=
    moves_nameAfter r.2 name (Set.mem_insert _ _)
  refine makes_tag (r := (r.1, r.2.nameAfter r.1 name)) (Moves.grows (hmoves.trans hnamed))
    fun h hlow hhigh => ?_
  rw [size_nameAfter] at hhigh
  exact eq_of_mergedOr rfl (Scene.size_create ..) h hlow hhigh

theorem makes_addFragment (tag : String) (containers : List Nat) (className : String) :
    Makes t.origin w (addFragment t tag containers w className) := by
  refine Makes.trans ?_ (makes_attachAll t _ containers [w.scene.size])
  have hgrows : w.toAssembler.Grows
      (w.createWidget Widget.missingId className (.fragment [] .transaction tag)).2.toAssembler :=
    { Assembler.Grows.refl _ with scene := Scene.grows_create _ _ _ _ }
  refine makes_tag (r := w.createWidget Widget.missingId className (.fragment [] .transaction tag))
    hgrows fun h hlow hhigh => ?_
  have hsize : (w.createWidget Widget.missingId className
    (.fragment [] .transaction tag)).2.scene.size = w.scene.size + 1 := Scene.size_create ..
  show h = w.scene.size
  omega

/-! ## Copies of layouts -/

theorem grows_copyRoot (h : Nat) : w.toAssembler.Grows (w.copyRoot h).2.toAssembler :=
  { Assembler.Grows.refl _ with scene := Scene.grows_copyWithId _ _ _ }

theorem grows_copyRoots (roots : List Nat) (w : Work σ) :
    w.toAssembler.Grows (collect copyRoot roots w).2.toAssembler :=
  have : IsPreorder (Work σ) fun w w' => w.toAssembler.Grows w'.toAssembler :=
    { refl := fun _ => .refl _, trans := fun _ _ _ => .trans }
  collect_related (R := fun w w' => w.toAssembler.Grows w'.toAssembler)
    (fun w h => w.grows_copyRoot h) roots w

/-- Whatever the copies of a layout add to the scene is held by one of
them. -/
theorem reaches_of_copyRoots : ∀ (roots : List Nat) (w : Work σ) (x : Nat),
    w.scene.size ≤ x → x < (collect copyRoot roots w).2.scene.size →
    ∃ c ∈ (collect copyRoot roots w).1, (collect copyRoot roots w).2.scene.Reaches c x
  | [], _, _, hlow, hhigh => absurd hhigh (Nat.not_lt_of_le hlow)
  | h :: roots, w, x, hlow, hhigh => by
      by_cases hx : x < (w.copyRoot h).2.scene.size
      · have hreach : (w.copyRoot h).2.scene.Reaches w.scene.size x :=
          w.scene.reaches_of_copyWithId _ hlow hx
        have hgrows := grows_copyRoots roots (w.copyRoot h).2
        exact ⟨w.scene.size, List.mem_cons_self, hgrows.scene.reaches hreach⟩
      · obtain ⟨c, hc, hreach⟩ :=
          reaches_of_copyRoots roots (w.copyRoot h).2 x (Nat.le_of_not_lt hx) hhigh
        exact ⟨c, List.mem_cons_of_mem _ hc, hreach⟩

theorem mem_originsOf_foldl_tag {σ : Type} {o : Origin} {g : Guid} :
    ∀ (xs : List Nat) (w : Work σ),
      (o ∈ w.attribution.originsOf g ∨ ∃ x ∈ xs, (w.scene.widget x).guid = g) →
      o ∈ (xs.foldl (fun w x => w.tag o x) w).attribution.originsOf g
  | [], _, h => h.resolve_right (by simp)
  | x :: xs, w, h => by
      refine mem_originsOf_foldl_tag xs (w.tag o x) ?_
      rcases h with h | ⟨y, hy, rfl⟩
      · exact Or.inl (OrderedMap.mem_tagsOf_tag.mpr (Or.inl h))
      · rcases List.mem_cons.mp hy with rfl | hy
        · exact Or.inl (OrderedMap.mem_tagsOf_tag.mpr (Or.inr ⟨rfl, rfl⟩))
        · exact Or.inr ⟨y, hy, rfl⟩

/-- Tags on trees go to all that the trees hold. -/
theorem mem_originsOf_tagTrees {σ : Type} {o : Origin} {g : Guid} :
    ∀ (cs : List Nat) (w : Work σ),
      (o ∈ w.attribution.originsOf g ∨
        ∃ c ∈ cs, ∃ x, w.scene.Reaches c x ∧ (w.scene.widget x).guid = g) →
      o ∈ (cs.foldl (fun w c => w.tagTree o c) w).attribution.originsOf g
  | [], _, h => h.resolve_right (by simp)
  | c :: cs, w, h => by
      refine mem_originsOf_tagTrees cs (w.tagTree o c) ?_
      rw [scene_tagTree]
      rcases h with h | ⟨c', hc', x, hx, hg⟩
      · rw [tagTree_eq]
        exact Or.inl (mem_originsOf_foldl_tag _ w (Or.inl h))
      · rcases List.mem_cons.mp hc' with rfl | hc'
        · rw [tagTree_eq]
          refine Or.inl (mem_originsOf_foldl_tag _ w (Or.inr ⟨x, ?_, hg⟩))
          exact Scene.mem_depthFirst.mpr hx
        · exact Or.inr ⟨c', hc', x, hx, hg⟩

theorem makes_materialize (layoutId : Int64) :
    Makes t.origin w (materialize t.origin w layoutId).2 := by
  rw [materialize_eq]
  cases (word32? layoutId).bind w.layouts.get? with
  | none =>
      have hmoves : ∀ line, Moves t [] (∅, w) (∅, w.note line) := moves_note w
      exact (hmoves _).makes rfl
  | some layout =>
      let r := collect copyRoot layout.roots w
      let done := r.1.foldl (fun w c => w.tagTree t.origin c) r.2
      have htags : Moves t [] (Set.univ, r.2) (Set.univ, done) :=
        moves_foldl (fun c _ w' => moves_tagTree w' (Set.mem_univ c)) r.2
      have hscene : done.scene = r.2.scene :=
        foldl_keeps (f := fun w => w.scene) (fun w c => w.scene_tagTree t.origin c) r.1 r.2
      show Makes t.origin w done
      refine ⟨(grows_copyRoots layout.roots w).trans htags.grows, fun x hlow hhigh => ?_⟩
      rw [hscene] at hhigh ⊢
      obtain ⟨c, hc, hreach⟩ := reaches_of_copyRoots layout.roots w x hlow hhigh
      exact mem_originsOf_tagTrees r.1 r.2 (Or.inr ⟨c, hc, x, hreach, rfl⟩)

theorem makes_materializeAll (ids : List Int64) :
    Makes t.origin w (collectAll (materialize t.origin) ids w).2 :=
  collectAll_related (fun w' id => makes_materialize t w' id) ids w

/-! ## All actions -/

theorem makes_lookup (s call : σ) (className : String) :
    Makes t.origin w (w.lookup t s call className) := by
  refine (makes_askInts t w (.arg 0) call).trans ?_
  generalize hask : w.askInts t (.arg 0) call = asked
  obtain ⟨ints, w₁⟩ := asked
  rw [lookup_eq, hask]
  let containers := w₁.bound (t.query.receiver call)
  refine (collect_related (fun w' id => makes_lookupOne t w' s className containers id)
    (lookupIds ints) w₁).trans ?_
  exact (makes_bindLocal t _ _ _).trans (makes_bindLocal t _ _ _)

theorem makes_allocate (s : σ) (className : String) :
    Makes t.origin w (w.allocate t s className) := by
  have hquiet : Moves t [s] (∅, w) (∅, w.allocate t s className) :=
    moves_allocate w className List.mem_cons_self
  rw [allocate_eq] at hquiet ⊢
  dsimp only at hquiet ⊢
  split
  · rename_i hbuilder
    rw [if_pos hbuilder] at hquiet
    exact hquiet.makes (by simp)
  · split
    · refine Makes.trans ?_ (makes_bindLocal t _ _ _)
      exact makes_allocation t w s className (fun w => w.kindOf className)
        (kindOf_bare w className) _
    · rename_i hbuilder hwidget
      rw [if_neg hbuilder, if_neg hwidget] at hquiet
      exact hquiet.makes (by simp)

theorem makes_listView (s : σ) : Makes t.origin w (w.listView t s) :=
  (makes_allocation t w s Toolkit.listClass (fun _ => .group []) rfl none).trans
    (makes_bindLocal t _ _ _)

theorem makes_adapterRow (s : σ) (signature : String) :
    Makes t.origin w (w.adapterRow t s signature) :=
  ((makes_allocation t w s Toolkit.viewClass (fun _ => .view) rfl none).trans
    (makes_attachAll t _ _ _)).trans (makes_bindLocal t _ _ _)

theorem makes_inflate (s : σ) (signature : String) :
    Makes t.origin w (w.inflate t s signature) := by
  rw [inflate_eq]
  dsimp only
  split
  · exact .refl _ w
  · rename_i i _
    refine (makes_askInts t w (.arg i) s).trans ?_
    refine (makes_materializeAll t _ (w.askInts t (.arg i) s).1).trans ?_
    refine Makes.trans ?_ (makes_bindLocal t _ _ _)
    split
    · exact makes_attachAll t _ _ _
    · exact .refl _ _

theorem makes_showLayout (s : σ) : Makes t.origin w (w.showLayout t s) := by
  refine (makes_askInts t w (.arg 0) s).trans ?_
  refine (makes_materializeAll t _ (w.askInts t (.arg 0) s).1).trans ?_
  refine Makes.trans ?_ (makes_bindLocal t _ _ _)
  let r := collectAll (materialize t.origin) (w.askInts t (.arg 0) s).1
    (w.askInts t (.arg 0) s).2
  have hmoves : Moves t [s] (Set.univ, r.2) (Set.univ, r.2.addRoots t.origin r.1) :=
    moves_addRoots r.2 fun _ _ => Set.mem_univ _
  exact hmoves.makes (by simp)

theorem makes_fragment (s : σ) (signature : String) :
    Makes t.origin w (w.fragment t s signature) := by
  rw [fragment_eq]
  dsimp only
  split
  · exact .refl _ w
  · rename_i i _
    let params := Signature.callParams signature
    refine (makes_askLabels t w (.arg i) s).trans ?_
    refine (makes_askLabelsAt t _ (params.idxOf? Toolkit.stringParam) s).trans ?_
    exact (makes_askIntsAt t _ _ s).trans
      (foldl_related (fun className _ w' => makes_addFragment t w' _ _ className) _)

/-- Whatever an action makes belongs to the component that it is done
for. -/
theorem makes_perform (s : σ) (a : Action σ) : Makes t.origin w (w.perform t s a) := by
  have hquiet : Moves t [s] (∅, w) (∅, w.perform t s a) := moves_perform w List.mem_cons_self a
  cases a with
  | await => exact .refl _ w
  | lookup call className => exact makes_lookup t w s call className
  | childAt call => exact hquiet.makes (by simp [perform, childAt_eq])
  | clear => exact hquiet.makes (by simp [perform])
  | allocate className => exact makes_allocate t w s className
  | inflate signature => exact makes_inflate t w s signature
  | addView => exact hquiet.makes (size_attachAll ..)
  | adapterRow signature => exact makes_adapterRow t w s signature
  | listView => exact makes_listView t w s
  | showLayout => exact makes_showLayout t w s
  | showWidget => exact hquiet.makes (size_showWidget ..)
  | inflateMenu => exact hquiet.makes (size_inflateMenu ..)
  | fragment signature => exact makes_fragment t w s signature
  | call signature => exact hquiet.makes (size_call ..)
  | nothing => exact .refl _ w

theorem makes_step (s : σ) : Makes t.origin w (w.step t s).1 := by
  have hnote : Makes t.origin w (w.noteCall t s) := by
    have hmoves : Moves t [s] (∅, w) (∅, w.noteCall t s) := moves_noteCall w List.mem_cons_self
    obtain ⟨attribution, hnote⟩ := w.noteCall_eq t s
    exact hmoves.makes (by rw [hnote])
  rw [step_eq]
  cases t.query.action s with
  | ok a => exact hnote.trans (makes_perform t _ s a)
  | error e => exact hnote

theorem makes_run (sites : List σ) (w : Work σ) : Makes t.origin w (run t sites w).1 :=
  run_keeps (fun w' s hmakes => hmakes.trans (makes_step t w' s)) sites (.refl _ w)

end Work

/-! ## Methods -/

namespace Assembler

variable {σ : Type} [DecidableEq σ] {n : Nat} {a : Assembler σ}

/-- Every widget from `n` on belongs to some component. -/
def Owned (n : Nat) (a : Assembler σ) : Prop :=
  ∀ h, n ≤ h → h < a.scene.size → ∃ o, o ∈ a.attribution.originsOf (a.scene.widget h).guid

theorem owned_assembleMethod (ha : a.Owned n) (t : Task σ) (sites : List σ) :
    (a.assembleMethod t sites).assembler.Owned n := by
  let w := (Work.run t sites (a.begin t sites)).1
  have hrun : Work.Makes t.origin (a.begin t sites) w := Work.makes_run t sites _
  have hw : w.toAssembler.Owned n := by
    intro h hlow hhigh
    by_cases hold : h < a.scene.size
    · obtain ⟨o, ho⟩ := ha h hlow hold
      exact ⟨o, hrun.grows.mem_originsOf hold ho⟩
    · exact ⟨t.origin, hrun.owned h (Nat.le_of_not_lt hold) hhigh⟩
  rw [assembler_assembleMethod]
  split
  · exact hw
  · exact hw

theorem owned_assemble (ha : a.Owned n) (q : Query σ) (o : Oracle σ)
    (units : List (MethodUnit σ)) : (a.assemble q o units).assembler.Owned n :=
  assemble_keeps (P := Owned n) (fun _ t sites ha => owned_assembleMethod ha t sites)
    (fun _ _ ha => ha) ha q o units

end Assembler

end UiRecovery
