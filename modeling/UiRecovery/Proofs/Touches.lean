import UiRecovery.Proofs.Setters

/-!
# What a step touches

Of all that a step may change, two things are followed here: what the
locals denote, and the further attributes of the widgets, which images are
among. `Touches names told` says of two states how far they may be apart in
that. A step assigns the locals of its action (`Action.binds`), and only an
image setter tells anything of further attributes, to the widgets that its
receiver denotes (`Work.illustrated`). That is all (`touches_perform`), so
that a local keeps what it denotes until it is assigned again
(`denotes_run`).
-/

namespace UiRecovery

/-- The locals that an action may assign. -/
def Action.binds {σ : Type} (q : Query σ) (s : σ) : Action σ → List (Option String)
  | .lookup c _ => [q.definedLocal c, q.definedLocal s]
  | .childAt c => [q.definedLocal c, q.definedLocal s]
  | .clear => [q.definedLocal s]
  | .allocate _ => [q.definedLocal s]
  | .inflate _ => [q.definedLocal s]
  | .adapterRow _ => [q.definedLocal s]
  | .listView => [q.definedLocal s]
  | .showLayout => [q.receiver s]
  | .showWidget => [q.receiver s]
  | .call _ => [q.definedLocal s]
  | .await => []
  | .addView => []
  | .inflateMenu => []
  | .fragment _ => []
  | .nothing => []

/-- The locals that may be assigned at a site. -/
def Query.assigned {σ : Type} [DecidableEq σ] (q : Query σ) (s : σ) : List (Option String) :=
  match q.action s with
  | .ok a => a.binds q s
  | .error _ => []

/-! ## Findings that are no images -/

theorem Widget.others_record {x : Finding} (hx : ∀ value, x ≠ .image value) (e : Widget) :
    (e.record x).others = e.others := by
  cases x with
  | text a => rfl
  | listener l => rfl
  | mask m =>
      show (e.addMask m).others = e.others
      unfold addMask
      split <;> rfl
  | image value => exact absurd rfl (hx value)
  | name localName =>
      show (e.nameAfter localName).others = e.others
      unfold nameAfter
      split <;> rfl

theorem Widget.others_recordAll : ∀ {xs : List Finding}, (∀ x ∈ xs, ∀ value, x ≠ .image value) →
    ∀ e : Widget, (e.recordAll xs).others = e.others
  | [], _, _ => rfl
  | x :: xs, hxs, e => by
      have hrest : ∀ y ∈ xs, ∀ value, y ≠ .image value := fun y hy =>
        hxs y (List.mem_cons_of_mem x hy)
      exact (others_recordAll hrest (e.record x)).trans (others_record (hxs x List.mem_cons_self) e)

theorem Setter.findings_ne_image {setter : Setter} (hsetter : setter ≠ .image) (r : Resolution) :
    ∀ x ∈ setter.findings r, ∀ value, x ≠ .image value := by
  intro x hx value heq
  subst heq
  cases setter with
  | image => exact hsetter rfl
  | _ => simp [findings] at hx

namespace Work

section

variable {σ : Type} {t : Task σ} {names : List (Option String)} {told : List Nat}
  {w w' w'' : Work σ}

/-- What a local denotes, the widgets and the draft. -/
def denotes (w : Work σ) (name : String) : List Nat × Option Nat :=
  (w.bound (some name), w.draftOf? (some name))

/-- The widgets that an action tells an image. -/
def illustrated (t : Task σ) (s : σ) (w : Work σ) : Action σ → List Nat
  | .call signature =>
    if w.draftOf? (t.query.receiver s) = none ∧ Setter.ofSignature? signature = some .image then
      w.setterTargets t s
    else []
  | _ => []

/-- From `w` to `w'` other locals denote the same, and other widgets of `w`
have the same further attributes. -/
structure Touches (names : List (Option String)) (told : List Nat) (w w' : Work σ) : Prop where
  denotes : ∀ name, some name ∉ names → w'.denotes name = w.denotes name
  size_le : w.scene.size ≤ w'.scene.size
  others : ∀ x < w.scene.size, x ∉ told →
    (w'.scene.get? x).map (·.others) = (w.scene.get? x).map (·.others)

theorem Touches.refl (names : List (Option String)) (told : List Nat) (w : Work σ) :
    Touches names told w w :=
  ⟨fun _ _ => rfl, Nat.le_refl _, fun _ _ _ => rfl⟩

theorem Touches.trans (h : Touches names told w w') (h' : Touches names told w' w'') :
    Touches names told w w'' where
  denotes name hname := (h'.denotes name hname).trans (h.denotes name hname)
  size_le := h.size_le.trans h'.size_le
  others x hx htold :=
    (h'.others x (hx.trans_le h.size_le) htold).trans (h.others x hx htold)

instance : IsPreorder (Work σ) (Touches names told) where
  refl := .refl names told
  trans _ _ _ := .trans

theorem Touches.others_widget (h : Touches names told w w') {x : Nat} (hx : x < w.scene.size)
    (htold : x ∉ told) : (w'.scene.widget x).others = (w.scene.widget x).others := by
  have hsame := h.others x hx htold
  rw [Scene.get?_of_lt hx, Scene.get?_of_lt (hx.trans_le h.size_le)] at hsame
  exact Option.some.inj hsame

theorem Quiet.touches (h : Quiet w w') : Touches names told w w' where
  denotes name _ := by
    unfold Work.denotes draftOf?
    rw [h.names.bound, h.names.draftLocals]
  size_le := h.still.size.ge
  others x _ _ := by rw [h.still.get?]

/-! ## Locals -/

theorem touches_bindLocal {name : Option String} (hname : name ∈ names) (w : Work σ)
    (hs : List Nat) : Touches names told w (w.bindLocal name hs) := by
  cases name with
  | none => exact .refl names told w
  | some name =>
      refine ⟨?_, Nat.le_refl _, fun _ _ _ => rfl⟩
      intro name' hname'
      have hne : name' ≠ name := fun heq => hname' (heq ▸ hname)
      unfold denotes
      rw [bound_bindLocal, if_neg hne]
      rfl

theorem touches_bindDraft {name : Option String} (hname : name ∈ names) (w : Work σ)
    (draft : Nat) : Touches names told w (w.bindDraft name draft) := by
  cases name with
  | none => exact .refl names told w
  | some name =>
      refine ⟨?_, Nat.le_refl _, fun _ _ _ => rfl⟩
      intro name' hname'
      have hne : name' ≠ name := fun heq => hname' (heq ▸ hname)
      have hget : (w.draftLocals.insert name draft).get? name' = w.draftLocals.get? name' := by
        rw [OrderedMap.get?_insert, if_neg hne]
      exact congrArg (w.bound (some name'), ·) hget

/-- A local that is unbound is bound to no widget, and gives up its
draft. -/
theorem touches_unbindLocal {name : Option String} (hname : name ∈ names) (w : Work σ) :
    Touches names told w (w.unbindLocal name) := by
  cases name with
  | none => exact .refl names told w
  | some name =>
      refine ⟨?_, Nat.le_refl _, fun _ _ _ => rfl⟩
      intro name' hname'
      have hne : name' ≠ name := fun heq => hname' (heq ▸ hname)
      have hbound : (w.bindLocal (some name) []).bound (some name') = w.bound (some name') := by
        rw [bound_bindLocal, if_neg hne]
      have hget : (w.draftLocals.erase name).get? name' = w.draftLocals.get? name' := by
        rw [OrderedMap.get?_erase, if_neg hne]
      exact Prod.ext hbound hget

/-! ## Widgets -/

theorem touches_modifyWidget {h : Nat} {f : Widget → Widget}
    (hf : h ∉ told → ∀ e, (f e).others = e.others) (w : Work σ) :
    Touches names told w (w.modifyWidget h f) := by
  refine ⟨fun _ _ => rfl, (Scene.size_modify ..).ge, ?_⟩
  intro x _ htold
  show ((w.scene.modify h f).get? x).map (·.others) = _
  rw [Scene.get?_modify]
  split
  · rename_i heq
    rw [← heq] at htold
    cases w.scene.get? x with
    | none => rfl
    | some e => exact congrArg some (hf htold e)
  · rfl

theorem touches_modifyWidgets {hs : List Nat} {f : Widget → Widget}
    (hf : ∀ h ∈ hs, h ∉ told → ∀ e, (f e).others = e.others) (w : Work σ) :
    Touches names told w (w.modifyWidgets hs f) := by
  rw [modifyWidgets_eq]
  exact foldl_related (fun h hh => touches_modifyWidget (hf h hh)) w

theorem touches_nameAfter (w : Work σ) (h : Nat) (name : Option String) :
    Touches names told w (w.nameAfter h name) := by
  cases name with
  | none => exact .refl names told w
  | some name =>
      refine touches_modifyWidget ?_ w
      exact fun _ => Widget.others_record (x := .name name) nofun

theorem touches_addRoots (w : Work σ) (o : Origin) (hs : List Nat) :
    Touches names told w (w.addRoots o hs) := by
  unfold addRoots
  split
  · exact .refl names told w
  · exact ⟨fun _ _ => rfl, Nat.le_refl _, fun _ _ _ => rfl⟩

theorem touches_attach (w : Work σ) (parent child : Nat) :
    Touches names told w (w.attach parent child) := by
  rw [attach_eq]
  split
  · exact .refl names told w
  · rcases w.scene.addChild_cases parent child with hsame | ⟨e, -, -, herror⟩ | ⟨-, hadded⟩
    · rw [hsame]
      exact .refl names told w
    · rw [herror]
      exact ⟨fun _ _ => rfl, Nat.le_refl _, fun _ _ _ => rfl⟩
    · rw [hadded]
      exact touches_modifyWidget (f := (·.appendChildren [child])) (fun _ _ => rfl) w

theorem touches_attachAll (w : Work σ) (parents children : List Nat) :
    Touches names told w (w.attachAll parents children) := by
  rw [attachAll_eq]
  exact foldl_related (fun p _ => foldl_related fun c _ w => w.touches_attach p c) w

/-- New widgets come behind the old ones. -/
theorem touches_createWidget (w : Work σ) (id : Int32) (className : String) (kind : WidgetKind) :
    Touches names told w (w.createWidget id className kind).2 := by
  refine ⟨fun _ _ => rfl, ?_, ?_⟩
  · exact (Nat.le_succ _).trans_eq (Scene.size_create ..).symm
  · intro x hx _
    exact congrArg _ ((Scene.get?_create ..).trans (if_neg hx.ne))

theorem touches_createDynamic (w : Work σ) (className : String) (kind : WidgetKind) :
    Touches names told w (w.createDynamic className kind).2 := by
  have hdraw : Touches names told w w.drawId.2 :=
    ⟨fun _ _ => rfl, Nat.le_refl _, fun _ _ _ => rfl⟩
  exact hdraw.trans (touches_createWidget _ _ className kind)

theorem touches_copyRoot (w : Work σ) (h : Nat) : Touches names told w (copyRoot w h).2 := by
  refine ⟨fun _ _ => rfl, (w.scene.size_lt_size_copyWithId h _).le, ?_⟩
  intro x hx _
  exact congrArg _ (w.scene.get?_copyWithId_of_lt _ hx)

theorem touches_materialize (o : Origin) (w : Work σ) (layoutId : Int64) :
    Touches names told w (materialize o w layoutId).2 := by
  rw [materialize_eq]
  split
  · exact ⟨fun _ _ => rfl, Nat.le_refl _, fun _ _ _ => rfl⟩
  · rename_i layout _
    have hcopies : Touches names told w (collect copyRoot layout.roots w).2 :=
      collect_related touches_copyRoot layout.roots w
    exact hcopies.trans (quiet_tagTrees o _ _).touches

theorem touches_materializeAll (o : Origin) (w : Work σ) (ids : List Int64) :
    Touches names told w (collectAll (materialize o) ids w).2 :=
  collectAll_related (touches_materialize o) ids w

/-! ## Calls -/

theorem touches_dialogCall {s : σ} (hname : t.query.definedLocal s ∈ names) (w : Work σ)
    (signature : String) (draft : Nat) :
    Touches names told w (w.dialogCall t s signature draft) :=
  (touches_bindDraft hname w draft).trans (quiet_dialogCall s signature draft).touches

theorem touches_setterCall {s : σ} {signature : String}
    (htold : Setter.ofSignature? signature = some .image → w.setterTargets t s ⊆ told) :
    Touches names told w (w.setterCall t s signature) := by
  cases hsetter : Setter.ofSignature? signature with
  | none =>
      rw [setterCall_of_none hsetter]
      exact .refl names told w
  | some setter =>
      obtain ⟨v, hquiet, heq⟩ := setterCall_of_setter (t := t) (s := s) hsetter w
      rw [heq]
      refine hquiet.touches.trans (touches_modifyWidgets ?_ v)
      intro h hh hnot e
      have hother : setter ≠ .image := by
        rintro rfl
        exact hnot (htold hsetter hh)
      exact e.others_recordAll (Setter.findings_ne_image hother _)

theorem touches_call (w : Work σ) {s : σ} {signature : String}
    (hname : t.query.definedLocal s ∈ names) :
    Touches names (w.illustrated t s (.call signature)) w (w.call t s signature) := by
  rw [call_eq]
  split
  · exact touches_dialogCall hname w signature _
  · rename_i hdraft
    refine touches_setterCall ?_
    intro himage
    simp [illustrated, hdraft, himage]

/-! ## Layouts and fragments -/

theorem touches_inflate {s : σ} (hname : t.query.definedLocal s ∈ names) (w : Work σ)
    (signature : String) : Touches names told w (w.inflate t s signature) := by
  rw [inflate_eq]
  dsimp only
  split
  · exact .refl names told w
  · rename_i i _
    have hasked : Touches names told w (w.askInts t (.arg i) s).2 :=
      (quiet_askInts (.arg i) s).touches
    have hmade := hasked.trans (touches_materializeAll t.origin _ (w.askInts t (.arg i) s).1)
    refine (hmade.trans ?_).trans (touches_bindLocal hname _ _)
    split
    · exact touches_attachAll _ _ _
    · exact .refl names told _

theorem touches_showLayout {s : σ} (hname : t.query.receiver s ∈ names) (w : Work σ) :
    Touches names told w (w.showLayout t s) := by
  have hasked : Touches names told w (w.askInts t (.arg 0) s).2 :=
    (quiet_askInts (.arg 0) s).touches
  have hmade := hasked.trans (touches_materializeAll t.origin _ (w.askInts t (.arg 0) s).1)
  exact (hmade.trans (touches_addRoots _ t.origin _)).trans (touches_bindLocal hname _ _)

theorem touches_showWidget {s : σ} (hname : t.query.receiver s ∈ names) (w : Work σ) :
    Touches names told w (w.showWidget t s) := by
  have htagged : Touches names told w _ :=
    (quiet_tagTrees t.origin (w.bound (t.query.argLocal s 0)) w).touches
  rw [showWidget_eq]
  exact (htagged.trans (touches_addRoots _ t.origin _)).trans (touches_bindLocal hname _ _)

theorem touches_addFragment (w : Work σ) (tag : String) (containers : List Nat)
    (className : String) : Touches names told w (addFragment t tag containers w className) := by
  have hcreate : Touches names told w _ :=
    w.touches_createWidget Widget.missingId className (.fragment [] .transaction tag)
  exact (hcreate.trans (quiet_tag t.origin _).touches).trans (touches_attachAll _ containers _)

theorem touches_fragment (w : Work σ) (s : σ) (signature : String) :
    Touches names told w (w.fragment t s signature) := by
  rw [fragment_eq]
  dsimp only
  split
  · exact .refl names told w
  · rename_i i _
    refine .trans ?_ (foldl_related (fun className _ w => w.touches_addFragment _ _ className) _)
    refine Quiet.touches (.trans (quiet_askLabels (t := t) (.arg i) s) ?_)
    exact .trans (quiet_askLabelsAt _ s) (quiet_askIntsAt _ s)

end

/-! ## Places -/

variable {σ : Type} [DecidableEq σ] {t : Task σ} {s : σ} {names : List (Option String)}
  {told : List Nat} {w : Work σ}

theorem touches_mergedOr (key : MergeKey σ) {f : Work σ → Nat × Work σ}
    (hf : Touches names told w (f w).2) : Touches names told w (w.mergedOr key f).2 := by
  unfold mergedOr
  split
  · exact .refl names told w
  · exact ⟨hf.denotes, hf.size_le, hf.others⟩

theorem touches_lookupOne (className : String) (containers : List Nat) (w : Work σ)
    (id : Int32) : Touches names told w (lookupOne t s className containers w id).2 := by
  rw [lookupOne_eq]
  dsimp only
  refine Touches.trans ?_ ((touches_nameAfter _ _ _).trans (quiet_tag t.origin _).touches)
  split
  · exact .refl names told w
  · exact touches_mergedOr _ (w.touches_createWidget id className _)

/-! ## Actions -/

theorem touches_lookup {c : σ} (hcall : t.query.definedLocal c ∈ names)
    (hname : t.query.definedLocal s ∈ names) (w : Work σ) (className : String) :
    Touches names told w (w.lookup t s c className) := by
  have hasked : Touches names told w (w.askInts t (.arg 0) c).2 :=
    (quiet_askInts (.arg 0) c).touches
  have hlooked := hasked.trans (collect_related (touches_lookupOne (t := t) (s := s) className
    ((w.askInts t (.arg 0) c).2.bound (t.query.receiver c)))
    (lookupIds (w.askInts t (.arg 0) c).1) _)
  exact (hlooked.trans (touches_bindLocal hcall _ _)).trans (touches_bindLocal hname _ _)

theorem touches_allocate (hname : t.query.definedLocal s ∈ names) (w : Work σ)
    (className : String) : Touches names told w (w.allocate t s className) := by
  rw [allocate_eq]
  dsimp only
  split_ifs
  · have hdraft : Touches names told w { w with drafts := w.drafts ++ [({} : Dialog)] } :=
      ⟨fun _ _ => rfl, Nat.le_refl _, fun _ _ _ => rfl⟩
    exact hdraft.trans (touches_bindDraft hname _ _)
  · refine .trans ?_ (touches_bindLocal hname _ _)
    refine .trans ?_ (quiet_tag t.origin _).touches
    refine .trans ?_ (touches_nameAfter _ _ _)
    exact touches_mergedOr (.allocation s) (touches_createDynamic _ _ _)
  · exact touches_unbindLocal hname w

theorem touches_listView (hname : t.query.definedLocal s ∈ names) (w : Work σ) :
    Touches names told w (w.listView t s) := by
  rw [listView_eq]
  dsimp only
  refine .trans ?_ (touches_bindLocal hname _ _)
  refine .trans ?_ (quiet_tag t.origin _).touches
  exact touches_mergedOr (.allocation s) (touches_createDynamic _ _ _)

theorem touches_adapterRow (hname : t.query.definedLocal s ∈ names) (w : Work σ)
    (signature : String) : Touches names told w (w.adapterRow t s signature) := by
  rw [adapterRow_eq]
  dsimp only
  refine .trans ?_ (touches_bindLocal hname _ _)
  refine .trans ?_ (touches_attachAll _ _ _)
  refine .trans ?_ (quiet_tag t.origin _).touches
  exact touches_mergedOr (.allocation s) (touches_createDynamic _ _ _)

/-- An action touches what it assigns and what it illustrates. -/
theorem touches_perform (w : Work σ) (s : σ) (a : Action σ) :
    Touches (a.binds t.query s) (w.illustrated t s a) w (w.perform t s a) := by
  have hlast : ∀ {x : Option String} {xs : List (Option String)}, x ∈ x :: xs := List.mem_cons_self
  cases a with
  | await => exact .refl _ _ w
  | lookup c className =>
      exact touches_lookup (by simp [Action.binds]) (by simp [Action.binds]) w className
  | childAt c =>
      exact (touches_bindLocal (by simp [Action.binds]) w _).trans
        (touches_bindLocal (by simp [Action.binds]) _ _)
  | clear => exact touches_unbindLocal hlast w
  | allocate className => exact touches_allocate hlast w className
  | inflate signature => exact touches_inflate hlast w signature
  | addView => exact touches_attachAll w _ _
  | adapterRow signature => exact touches_adapterRow hlast w signature
  | listView => exact touches_listView hlast w
  | showLayout => exact touches_showLayout hlast w
  | showWidget => exact touches_showWidget hlast w
  | inflateMenu => exact (quiet_inflateMenu s).touches
  | fragment signature => exact touches_fragment w s signature
  | call signature => exact touches_call w hlast
  | nothing => exact .refl _ _ w

/-! ## Steps -/

omit [DecidableEq σ] in
theorem illustrated_noteCall (w : Work σ) (t : Task σ) (s : σ) (a : Action σ) :
    (w.noteCall t s).illustrated t s a = w.illustrated t s a := by
  cases a with
  | call signature =>
      simp only [illustrated]
      rw [draftOf?_noteCall, setterTargets_noteCall]
  | _ => rfl

theorem touches_step {a : Action σ} (haction : t.query.action s = .ok a) (w : Work σ) :
    Touches (a.binds t.query s) (w.illustrated t s a) w (w.step t s).1 := by
  rw [step_eq]
  rw [haction, ← illustrated_noteCall]
  exact (quiet_noteCall s).touches.trans (touches_perform _ s a)

/-- Where a pair is malformed, nothing is touched. -/
theorem touches_step_of_error {e : Error} (haction : t.query.action s = .error e) (w : Work σ) :
    Touches [] [] w (w.step t s).1 := by
  rw [step_eq]
  rw [haction]
  exact (quiet_noteCall s).touches

/-- A local that is not assigned at a site denotes what it denoted. -/
theorem denotes_step {name : String} (hname : some name ∉ t.query.assigned s) (w : Work σ) :
    (w.step t s).1.denotes name = w.denotes name := by
  unfold Query.assigned at hname
  cases haction : t.query.action s with
  | error e => exact (touches_step_of_error haction w).denotes name List.not_mem_nil
  | ok a =>
      rw [haction] at hname
      exact (touches_step haction w).denotes name hname

theorem denotes_run {name : String} : ∀ {sites : List σ},
    (∀ s ∈ sites, some name ∉ t.query.assigned s) → ∀ w : Work σ,
      (run t sites w).1.denotes name = w.denotes name
  | [], _, _ => rfl
  | s :: rest, hname, w => by
      have hstep := denotes_step (hname s List.mem_cons_self) w
      have hrest : ∀ s' ∈ rest, some name ∉ t.query.assigned s' := fun s' hs' =>
        hname s' (List.mem_cons_of_mem s hs')
      rw [run]
      cases hfirst : w.step t s with
      | mk w' failure =>
          rw [hfirst] at hstep
          cases failure with
          | some e => exact hstep
          | none => exact (denotes_run hrest w').trans hstep

end Work

end UiRecovery
