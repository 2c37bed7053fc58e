import UiRecovery.Proofs.Ownership

/-!
# Work that keeps what is shown

A user is shown screens, menus and dialogs. Most work on a method only
prepares them: it makes widgets, tells them things, and lets locals denote
them. `KeepsShown w v` says that a piece of work from `w` to `v` is of this
kind, and that is so of all actions but five. Of those each changes one
thing that is shown:

- `showLayout` and `showWidget` change the screens;
- `inflateMenu` changes the menus;
- `allocate` and `call` change the dialogs that the method has begun.

What the five do to the thing that they change is a matter for the modules
on screens, menus and dialogs. Here they are seen from the other things
(`roots_perform`, `menus_perform`). `Query.action_cases` says where the five
come from: from constructions outside all pairs, and from calls outside all
idioms.
-/

namespace UiRecovery

namespace Work

section

variable {σ : Type} {t : Task σ} {w v u : Work σ}

/-- What is shown in `v` is what is shown in `w`. -/
structure KeepsShown (w v : Work σ) : Prop where
  roots : v.roots = w.roots
  menus : v.menus = w.menus
  drafts : v.drafts = w.drafts

namespace KeepsShown

theorem refl (w : Work σ) : KeepsShown w w := ⟨rfl, rfl, rfl⟩

theorem trans (h : KeepsShown w v) (h' : KeepsShown v u) : KeepsShown w u :=
  ⟨h'.roots.trans h.roots, h'.menus.trans h.menus, h'.drafts.trans h.drafts⟩

end KeepsShown

instance : IsPreorder (Work σ) KeepsShown where
  refl := .refl
  trans _ _ _ := .trans

/-! ## Elementary steps -/

theorem keepsShown_modifyWidget (w : Work σ) (h : Nat) (f : Widget → Widget) :
    KeepsShown w (w.modifyWidget h f) :=
  ⟨rfl, rfl, rfl⟩

theorem keepsShown_tag (w : Work σ) (o : Origin) (h : Nat) : KeepsShown w (w.tag o h) :=
  ⟨rfl, rfl, rfl⟩

theorem keepsShown_createWidget (w : Work σ) (id : Int32) (className : String) (kind : WidgetKind) :
    KeepsShown w (w.createWidget id className kind).2 :=
  ⟨rfl, rfl, rfl⟩

theorem keepsShown_createDynamic (w : Work σ) (className : String) (kind : WidgetKind) :
    KeepsShown w (w.createDynamic className kind).2 :=
  ⟨rfl, rfl, rfl⟩

theorem keepsShown_askInts (w : Work σ) (t : Task σ) (ref : ValueRef) (s : σ) :
    KeepsShown w (w.askInts t ref s).2 := by
  unfold askInts
  dsimp only
  split <;> exact ⟨rfl, rfl, rfl⟩

theorem keepsShown_askLabels (w : Work σ) (t : Task σ) (ref : ValueRef) (s : σ) :
    KeepsShown w (w.askLabels t ref s).2 := by
  unfold askLabels
  dsimp only
  split <;> exact ⟨rfl, rfl, rfl⟩

theorem keepsShown_askIntsAt (w : Work σ) (t : Task σ) (position : Option Nat) (s : σ) :
    KeepsShown w (w.askIntsAt t position s).2 := by
  cases position with
  | none => exact .refl w
  | some i => exact w.keepsShown_askInts t (.arg i) s

theorem keepsShown_askLabelsAt (w : Work σ) (t : Task σ) (position : Option Nat) (s : σ) :
    KeepsShown w (w.askLabelsAt t position s).2 := by
  cases position with
  | none => exact .refl w
  | some i => exact w.keepsShown_askLabels t (.arg i) s

theorem keepsShown_noteCall (w : Work σ) (t : Task σ) (s : σ) : KeepsShown w (w.noteCall t s) := by
  obtain ⟨attribution, hnote⟩ := w.noteCall_eq t s
  rw [hnote]
  exact ⟨rfl, rfl, rfl⟩

theorem keepsShown_bindLocal (w : Work σ) (name : Option String) (hs : List Nat) :
    KeepsShown w (w.bindLocal name hs) := by
  cases name <;> exact ⟨rfl, rfl, rfl⟩

theorem keepsShown_unbindLocal (w : Work σ) (name : Option String) :
    KeepsShown w (w.unbindLocal name) := by
  cases name <;> exact ⟨rfl, rfl, rfl⟩

theorem keepsShown_bindDraft (w : Work σ) (name : Option String) (draft : Nat) :
    KeepsShown w (w.bindDraft name draft) := by
  cases name <;> exact ⟨rfl, rfl, rfl⟩

theorem keepsShown_nameAfter (w : Work σ) (h : Nat) (name : Option String) :
    KeepsShown w (w.nameAfter h name) := by
  cases name <;> exact ⟨rfl, rfl, rfl⟩

theorem keepsShown_attach (w : Work σ) (parent child : Nat) :
    KeepsShown w (w.attach parent child) := by
  rw [attach_eq]
  split
  · exact .refl w
  · split <;> exact ⟨rfl, rfl, rfl⟩

/-! ## Several at once -/

theorem keepsShown_modifyWidgets (w : Work σ) (hs : List Nat) (f : Widget → Widget) :
    KeepsShown w (w.modifyWidgets hs f) := by
  rw [modifyWidgets_eq]
  exact foldl_related (fun h _ w => w.keepsShown_modifyWidget h f) w

theorem keepsShown_tagTree (w : Work σ) (o : Origin) (h : Nat) : KeepsShown w (w.tagTree o h) := by
  rw [tagTree_eq]
  exact foldl_related (fun x _ w => w.keepsShown_tag o x) w

theorem keepsShown_tagTrees (w : Work σ) (o : Origin) (hs : List Nat) :
    KeepsShown w (hs.foldl (fun w h => w.tagTree o h) w) :=
  foldl_related (fun h _ w => w.keepsShown_tagTree o h) w

theorem keepsShown_attachAll (w : Work σ) (parents children : List Nat) :
    KeepsShown w (w.attachAll parents children) := by
  rw [attachAll_eq]
  exact foldl_related (fun p _ w => foldl_related (fun c _ w => w.keepsShown_attach p c) w) w

theorem keepsShown_materialize (o : Origin) (w : Work σ) (layoutId : Int64) :
    KeepsShown w (materialize o w layoutId).2 := by
  rw [materialize_eq]
  split
  · exact ⟨rfl, rfl, rfl⟩
  · rename_i layout _
    have hcopies : KeepsShown w (collect copyRoot layout.roots w).2 :=
      collect_related (fun _ _ => ⟨rfl, rfl, rfl⟩) layout.roots w
    exact hcopies.trans (keepsShown_tagTrees _ o _)

theorem keepsShown_materializeAll (w : Work σ) (o : Origin) (ids : List Int64) :
    KeepsShown w (collectAll (materialize o) ids w).2 :=
  collectAll_related (keepsShown_materialize o) ids w

/-! ## Actions -/

theorem keepsShown_inflate (w : Work σ) (s : σ) (signature : String) :
    KeepsShown w (w.inflate t s signature) := by
  rw [inflate_eq]
  dsimp only
  split
  · exact .refl w
  · rename_i i _
    have hmade := (w.keepsShown_askInts t (.arg i) s).trans
      (keepsShown_materializeAll _ t.origin (w.askInts t (.arg i) s).1)
    refine KeepsShown.trans ?_ (keepsShown_bindLocal _ _ _)
    split
    · exact hmade.trans (keepsShown_attachAll _ _ _)
    · exact hmade

theorem keepsShown_fragment (w : Work σ) (s : σ) (signature : String) :
    KeepsShown w (w.fragment t s signature) := by
  have hadd : ∀ (tag : String) (containers : List Nat) (w : Work σ) (className : String),
      KeepsShown w (addFragment t tag containers w className) := by
    intro tag containers w className
    have hmade :=
      w.keepsShown_createWidget Widget.missingId className (.fragment [] .transaction tag)
    exact (hmade.trans (keepsShown_tag _ t.origin _)).trans (keepsShown_attachAll _ _ _)
  rw [fragment_eq]
  dsimp only
  split
  · exact .refl w
  · rename_i i _
    refine (w.keepsShown_askLabels t (.arg i) s).trans ?_
    exact ((keepsShown_askLabelsAt _ t _ s).trans (keepsShown_askIntsAt _ t _ s)).trans
      (foldl_related (fun className _ w => hadd _ _ w className) _)

theorem keepsShown_setterCall (w : Work σ) (s : σ) (signature : String) :
    KeepsShown w (w.setterCall t s signature) := by
  rw [setterCall_eq]
  dsimp only
  split
  · exact .refl w
  · split
    · exact .refl w
    · exact (w.keepsShown_askLabels t (.arg 0) s).trans (keepsShown_modifyWidgets _ _ _)
    · exact (w.keepsShown_askLabels t (.arg 0) s).trans (keepsShown_modifyWidgets _ _ _)
    · exact (w.keepsShown_askInts t (.arg 0) s).trans (keepsShown_modifyWidgets _ _ _)
    · exact (w.keepsShown_askLabels t (.arg 0) s).trans (keepsShown_modifyWidgets _ _ _)

/-! ## Actions that change what is shown -/

theorem keepsShown_addRoots (w : Work σ) (o : Origin) (hs : List Nat) :
    ∃ roots, KeepsShown { w with roots } (w.addRoots o hs) := by
  unfold addRoots
  split <;> exact ⟨_, rfl, rfl, rfl⟩

/-- Screens are changed at the end, after work that keeps what is shown. -/
theorem KeepsShown.addRoots (h : KeepsShown w v) (o : Origin) (name : Option String)
    (hs : List Nat) :
    ∃ roots, KeepsShown { w with roots } ((v.addRoots o hs).bindLocal name hs) := by
  obtain ⟨roots, hroots⟩ := v.keepsShown_addRoots o hs
  have hbound := hroots.trans (keepsShown_bindLocal _ name hs)
  exact ⟨roots, hbound.roots, hbound.menus.trans h.menus, hbound.drafts.trans h.drafts⟩

theorem keepsShown_showLayout (w : Work σ) (s : σ) :
    ∃ roots, KeepsShown { w with roots } (w.showLayout t s) :=
  ((w.keepsShown_askInts t (.arg 0) s).trans
    (keepsShown_materializeAll _ t.origin _)).addRoots _ _ _

theorem keepsShown_showWidget (w : Work σ) (s : σ) :
    ∃ roots, KeepsShown { w with roots } (w.showWidget t s) := by
  rw [showWidget_eq]
  exact (w.keepsShown_tagTrees t.origin (w.bound (t.query.argLocal s 0))).addRoots _ _ _

theorem keepsShown_inflateMenu (w : Work σ) (s : σ) :
    ∃ menus, KeepsShown { w with menus } (w.inflateMenu t s) := by
  have hloop : ∀ (type : MenuType) (ids : List Int64) (w : Work σ),
      ∃ menus, KeepsShown { w with menus } (ids.foldl (showMenu t type) w) := by
    intro type ids
    induction ids with
    | nil => exact fun w => ⟨w.menus, .refl w⟩
    | cons id ids ih =>
        intro w
        obtain ⟨menus, hrest⟩ := ih (w.showMenu t type id)
        have hroots : (w.showMenu t type id).roots = w.roots := by
          unfold showMenu
          split <;> rfl
        have hdrafts : (w.showMenu t type id).drafts = w.drafts := by
          unfold showMenu
          split <;> rfl
        exact ⟨menus, hrest.roots.trans hroots, hrest.menus, hrest.drafts.trans hdrafts⟩
  obtain ⟨menus, hmenus⟩ := hloop (MenuType.ofCallback (t.query.methodOf s))
    (w.askInts t (.arg 0) s).1 (w.askInts t (.arg 0) s).2
  have hasked := w.keepsShown_askInts t (.arg 0) s
  exact ⟨menus, hmenus.roots.trans hasked.roots, hmenus.menus, hmenus.drafts.trans hasked.drafts⟩

theorem keepsShown_dialogCall (w : Work σ) (s : σ) (signature : String) (draft : Nat) :
    ∃ drafts, KeepsShown { w with drafts } (w.dialogCall t s signature draft) := by
  have hends : ∀ v : Work σ, v.roots = w.roots → v.menus = w.menus →
      ∃ drafts, KeepsShown { w with drafts } (v.bindDraft (t.query.definedLocal s) draft) := by
    intro v hroots hmenus
    have hbound := v.keepsShown_bindDraft (t.query.definedLocal s) draft
    exact ⟨v.drafts, hbound.roots.trans hroots, hbound.menus.trans hmenus, hbound.drafts⟩
  have hlabels := w.keepsShown_askLabels t (.arg 0) s
  unfold dialogCall
  dsimp only
  split_ifs
  · exact hends _ hlabels.roots hlabels.menus
  · exact hends _ hlabels.roots hlabels.menus
  · exact hends _ hlabels.roots hlabels.menus
  · split
    · exact hends w rfl rfl
    · have hlisteners := hlabels.trans (keepsShown_askLabels _ t (.arg 1) s)
      exact hends _ hlisteners.roots hlisteners.menus
  · exact hends w rfl rfl

theorem keepsShown_call (w : Work σ) (s : σ) (signature : String) :
    ∃ drafts, KeepsShown { w with drafts } (w.call t s signature) := by
  rw [call_eq]
  split
  · exact w.keepsShown_dialogCall s signature _
  · exact ⟨w.drafts, w.keepsShown_setterCall s signature⟩

end

variable {σ : Type} [DecidableEq σ] {t : Task σ} {w : Work σ}

theorem keepsShown_mergedOr {key : MergeKey σ} {create : Work σ → Nat × Work σ}
    (hcreate : KeepsShown w (create w).2) : KeepsShown w (w.mergedOr key create).2 := by
  unfold mergedOr
  split
  · exact .refl w
  · exact ⟨hcreate.roots, hcreate.menus, hcreate.drafts⟩

theorem keepsShown_lookup (w : Work σ) (s call : σ) (className : String) :
    KeepsShown w (w.lookup t s call className) := by
  have hone : ∀ (containers : List Nat) (w : Work σ) (id : Int32),
      KeepsShown w (lookupOne t s className containers w id).2 := by
    intro containers w id
    have hnamed : ∀ (v : Work σ) (h : Nat),
        KeepsShown v ((v.nameAfter h (t.query.definedLocal s)).tag t.origin h) :=
      fun v h => (v.keepsShown_nameAfter h _).trans (keepsShown_tag _ t.origin h)
    rw [lookupOne_eq]
    cases containers.findSome? fun c => w.scene.find? c id with
    | some h => exact hnamed w h
    | none => exact (keepsShown_mergedOr (w.keepsShown_createWidget id _ _)).trans (hnamed _ _)
  refine (w.keepsShown_askInts t (.arg 0) call).trans ?_
  have hfound := collect_related
    (hone ((w.askInts t (.arg 0) call).2.bound (t.query.receiver call)))
    (lookupIds (w.askInts t (.arg 0) call).1) (w.askInts t (.arg 0) call).2
  exact (hfound.trans (keepsShown_bindLocal _ _ _)).trans (keepsShown_bindLocal _ _ _)

theorem keepsShown_listView (w : Work σ) (s : σ) : KeepsShown w (w.listView t s) := by
  have hmade : KeepsShown w (w.mergedOr (.allocation s) fun w =>
      w.createDynamic Toolkit.listClass (.group [])).2 :=
    keepsShown_mergedOr (w.keepsShown_createDynamic _ _)
  exact (hmade.trans (keepsShown_tag _ t.origin _)).trans (keepsShown_bindLocal _ _ _)

theorem keepsShown_adapterRow (w : Work σ) (s : σ) (signature : String) :
    KeepsShown w (w.adapterRow t s signature) := by
  have hmade : KeepsShown w (w.mergedOr (.allocation s) fun w =>
      w.createDynamic Toolkit.viewClass .view).2 :=
    keepsShown_mergedOr (w.keepsShown_createDynamic _ _)
  refine KeepsShown.trans ?_ (keepsShown_bindLocal _ _ _)
  exact (hmade.trans (keepsShown_tag _ t.origin _)).trans (keepsShown_attachAll _ _ _)

/-- A construction of anything but a dialog builder. -/
theorem keepsShown_allocate_other {className : String}
    (hbuilder : w.settings.isDialogBuilder className = false) (s : σ) :
    KeepsShown w (w.allocate t s className) := by
  rw [allocate_eq]
  dsimp only
  rw [hbuilder, if_neg Bool.false_ne_true]
  split
  · have hmade : KeepsShown w (w.mergedOr (.allocation s) fun w =>
        w.createDynamic className (w.kindOf className)).2 :=
      keepsShown_mergedOr (w.keepsShown_createDynamic _ _)
    refine KeepsShown.trans ?_ (keepsShown_bindLocal _ _ _)
    exact (hmade.trans (keepsShown_nameAfter _ _ _)).trans (keepsShown_tag _ t.origin _)
  · exact w.keepsShown_unbindLocal _

theorem allocate_of_isDialogBuilder {className : String}
    (hbuilder : w.settings.isDialogBuilder className = true) (s : σ) :
    w.allocate t s className =
      ({ w with drafts := w.drafts ++ [({} : Dialog)] }).bindDraft (t.query.definedLocal s)
        w.drafts.length := by
  rw [allocate_eq]
  dsimp only
  rw [hbuilder, if_pos rfl]

theorem keepsShown_allocate (w : Work σ) (s : σ) (className : String) :
    ∃ drafts, KeepsShown { w with drafts } (w.allocate t s className) := by
  cases hbuilder : w.settings.isDialogBuilder className with
  | false => exact ⟨w.drafts, keepsShown_allocate_other hbuilder s⟩
  | true =>
      rw [allocate_of_isDialogBuilder hbuilder]
      exact ⟨_, keepsShown_bindDraft _ _ _⟩

end Work

/-- The actions that change nothing of what is shown. -/
def Action.KeepsShown {σ : Type} : Action σ → Prop
  | .showLayout => False
  | .showWidget => False
  | .inflateMenu => False
  | .allocate _ => False
  | .call _ => False
  | _ => True

/-- What idioms ask for keeps what is shown, constructions apart. -/
theorem Query.action_cases {σ : Type} [DecidableEq σ] {q : Query σ} {s : σ} {a : Action σ}
    (haction : q.action s = .ok a) :
    (∃ signature, q.dispatch s = none ∧ q.callSignature s = some signature ∧
        a = callAction signature) ∨
      (q.dispatch s = some .newExpression ∧ a = .allocate (q.constructedClass s)) ∨
      a.KeepsShown := by
  unfold action at haction
  cases hdispatch : q.dispatch s with
  | none =>
      rw [hdispatch] at haction
      cases hcall : q.callSignature s with
      | none =>
          rw [hcall] at haction
          cases haction
          exact Or.inr (Or.inr trivial)
      | some signature =>
          rw [hcall] at haction
          exact Or.inl ⟨signature, rfl, rfl, (Except.ok.inj haction).symm⟩
  | some k =>
      rw [hdispatch] at haction
      cases k with
      | findViewById =>
          refine Or.inr (Or.inr ?_)
          simp only [bind, Except.bind] at haction
          split at haction
          · cases haction
          · split at haction
            · split at haction <;> cases haction
              trivial
            · cases haction
              trivial
      | getChildAt =>
          refine Or.inr (Or.inr ?_)
          simp only [bind, Except.bind] at haction
          split at haction
          · cases haction
          · split at haction <;> cases haction <;> trivial
      | nullAssignment =>
          cases haction
          exact Or.inr (Or.inr trivial)
      | newExpression => exact Or.inr (Or.inl ⟨rfl, (Except.ok.inj haction).symm⟩)
      | _ =>
          refine Or.inr (Or.inr ?_)
          dsimp only at haction
          split at haction <;> cases haction <;> trivial

namespace Work

variable {σ : Type} [DecidableEq σ] {t : Task σ} {w : Work σ}

theorem keepsShown_perform (w : Work σ) (s : σ) {a : Action σ} (ha : a.KeepsShown) :
    KeepsShown w (w.perform t s a) := by
  cases a with
  | await => exact .refl w
  | lookup call className => exact w.keepsShown_lookup s call className
  | childAt call => exact (w.keepsShown_bindLocal _ _).trans (keepsShown_bindLocal _ _ _)
  | clear => exact w.keepsShown_unbindLocal _
  | allocate className => exact ha.elim
  | inflate signature => exact w.keepsShown_inflate s signature
  | addView => exact w.keepsShown_attachAll _ _
  | adapterRow signature => exact w.keepsShown_adapterRow s signature
  | listView => exact w.keepsShown_listView s
  | showLayout => exact ha.elim
  | showWidget => exact ha.elim
  | inflateMenu => exact ha.elim
  | fragment signature => exact w.keepsShown_fragment s signature
  | call signature => exact ha.elim
  | nothing => exact .refl w

theorem roots_perform (s : σ) {a : Action σ} (hlayout : a ≠ .showLayout)
    (hwidget : a ≠ .showWidget) : (w.perform t s a).roots = w.roots := by
  cases a with
  | showLayout => exact absurd rfl hlayout
  | showWidget => exact absurd rfl hwidget
  | inflateMenu => exact (w.keepsShown_inflateMenu s).choose_spec.roots
  | allocate className => exact (w.keepsShown_allocate s className).choose_spec.roots
  | call signature => exact (w.keepsShown_call s signature).choose_spec.roots
  | _ => exact (w.keepsShown_perform s (by trivial)).roots

end Work

end UiRecovery
