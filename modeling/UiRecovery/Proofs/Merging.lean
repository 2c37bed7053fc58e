import UiRecovery.Proofs.Ownership

/-!
# Places and their widgets

The table of the widgets that places in the code stand for. `Merges n` is
what holds of it at all times: each entry is a widget from `n` on, no two
places share a widget, and a place of a lookup has a widget with the id
that was looked up. The widget of a new entry is always the newest of the
scene, so it is behind `n` and behind all other entries.

`Places s` speaks of a stretch of work at the site `s` instead. Each
widget that it adds to the scene is that of a place of `s`, and the place
had none before. Every action is such a stretch, except for the copies of
layouts and for fragments: these add widgets that no place stands for, and
leave the table as it is (`places_or_unplaced`).
-/

namespace UiRecovery

theorem Scene.Grows.id_widget {s s' : Scene} (h : s.Grows s') {x : Nat} (hx : x < s.size) :
    (s'.widget x).id = (s.widget x).id :=
  (h.widget hx).id

theorem Scene.Prepares.id_widget {s s' : Scene} (h : s.Prepares s') {x : Nat} (hx : x < s.size) :
    (s'.widget x).id = (s.widget x).id := by
  have hmodify : ∀ (y : Nat) {f : Widget → Widget}, (∀ e, (f e).id = e.id) →
      ((s.modify y f).widget x).id = (s.widget x).id := by
    intro y f hf
    rw [widget, get?_modify, get?_of_lt hx]
    split
    · exact hf _
    · rfl
  cases h with
  | same => rfl
  | create id className kind => rw [widget, get?_create, if_neg (Nat.ne_of_lt hx), ← widget]
  | attach => exact hmodify _ fun _ => rfl
  | copyWithId y id => rw [widget, get?_copyWithId_of_lt s id hx, ← widget]
  | revise y hid => exact hmodify y hid
  | drawGuid => rfl

/-! ## The table -/

structure Assembler.Merges {σ : Type} [DecidableEq σ] (n : Nat) (a : Assembler σ) : Prop where
  base : n ≤ a.scene.size
  range : ∀ key h, a.merged.get? key = some h → n ≤ h ∧ h < a.scene.size
  injective : ∀ key key' h, a.merged.get? key = some h → a.merged.get? key' = some h → key = key'
  named : ∀ s id h, a.merged.get? (.lookup s id) = some h → (a.scene.widget h).id = id

namespace Assembler.Merges

variable {σ : Type} [DecidableEq σ] {n : Nat} {a b : Assembler σ}

/-- The scene changes, and no id of a widget in it. -/
theorem keep (ha : a.Merges n) (hsize : a.scene.size ≤ b.scene.size)
    (hid : ∀ h < a.scene.size, (b.scene.widget h).id = (a.scene.widget h).id)
    (hmerged : b.merged = a.merged) : b.Merges n := by
  refine ⟨ha.base.trans hsize, ?_, ?_, ?_⟩
  · intro key h hget
    rw [hmerged] at hget
    obtain ⟨hlow, hhigh⟩ := ha.range key h hget
    exact ⟨hlow, by omega⟩
  · intro key key' h hget hget'
    rw [hmerged] at hget hget'
    exact ha.injective key key' h hget hget'
  · intro s id h hget
    rw [hmerged] at hget
    rw [hid h (ha.range _ h hget).2]
    exact ha.named s id h hget

/-- A place takes the newest widget. -/
theorem insert (ha : a.Merges n) {key : MergeKey σ} (hsize : a.scene.size < b.scene.size)
    (hid : ∀ h < a.scene.size, (b.scene.widget h).id = (a.scene.widget h).id)
    (hmerged : b.merged = a.merged.insert key a.scene.size)
    (hnamed : ∀ s id, key = .lookup s id → (b.scene.widget a.scene.size).id = id) :
    b.Merges n := by
  have hbase := ha.base
  -- An entry is the new one, or an old one, whose widget is older.
  have hcases : ∀ key' h, b.merged.get? key' = some h →
      key' = key ∧ h = a.scene.size ∨ a.merged.get? key' = some h ∧ h < a.scene.size := by
    intro key' h hget
    rw [hmerged, OrderedMap.get?_insert] at hget
    split at hget
    · rename_i heq
      exact Or.inl ⟨heq, (Option.some.inj hget).symm⟩
    · exact Or.inr ⟨hget, (ha.range key' h hget).2⟩
  refine ⟨by omega, ?_, ?_, ?_⟩
  · intro key' h hget
    rcases hcases key' h hget with ⟨-, rfl⟩ | ⟨hold, -⟩
    · exact ⟨hbase, hsize⟩
    · obtain ⟨hlow, hhigh⟩ := ha.range key' h hold
      exact ⟨hlow, by omega⟩
  · intro key₁ key₂ h hget₁ hget₂
    rcases hcases key₁ h hget₁ with ⟨rfl, rfl⟩ | ⟨hold₁, hlt₁⟩
    · rcases hcases key₂ _ hget₂ with ⟨rfl, -⟩ | ⟨-, hlt₂⟩
      · rfl
      · omega
    · rcases hcases key₂ h hget₂ with ⟨rfl, rfl⟩ | ⟨hold₂, -⟩
      · omega
      · exact ha.injective key₁ key₂ h hold₁ hold₂
  · intro s id h hget
    rcases hcases _ h hget with ⟨hkey, rfl⟩ | ⟨hold, hlt⟩
    · exact hnamed s id hkey.symm
    · rw [hid h hlt]
      exact ha.named s id h hold

end Assembler.Merges

theorem Work.Move.merges {σ : Type} [DecidableEq σ] {t : Task σ} {sites : List σ} {n : Nat}
    {x y : Set Nat × Work σ} (hmove : Move t sites x y) (hx : x.2.toAssembler.Merges n) :
    y.2.toAssembler.Merges n := by
  have hgrows := hmove.grows.scene
  have hid : ∀ h < x.2.scene.size, (y.2.scene.widget h).id = (x.2.scene.widget h).id :=
    fun h hh => hgrows.id_widget hh
  cases hmove with
  | @lookup H w s id className kind =>
      refine hx.insert (Nat.lt_of_lt_of_eq (Nat.lt_succ_self _) (Scene.size_create ..).symm) hid
        rfl ?_
      intro s' id' hkey
      cases hkey
      show ((w.scene.create id className kind.bare).2.widget w.scene.size).id = id
      simp [Scene.widget, Scene.get?_create]
  | @allocation H w s className kind =>
      refine hx.insert (Nat.lt_of_lt_of_eq (Nat.lt_succ_self _) (Scene.size_create ..).symm) hid
        rfl ?_
      intro s' id' hkey
      cases hkey
  | _ => exact hx.keep hgrows.size_le hid rfl

namespace Assembler

variable {σ : Type} [DecidableEq σ] {n : Nat} {a : Assembler σ}

theorem kept_merges (n : Nat) :
    Kept (σ := σ) (Merges n) (fun x => x.2.toAssembler.Merges n) where
  begins _ _ ha := ha
  moves hmove hx := hmove.merges hx
  fails _ hw := hw
  ends _ _ hw := hw.keep le_rfl (fun _ _ => rfl) rfl
  skips _ _ ha := ha.keep le_rfl (fun _ _ => rfl) rfl

theorem Prepared.merges (ha : a.Prepared) : a.Merges a.scene.size := by
  have hempty := ha.unassembled.1
  refine ⟨le_rfl, ?_, ?_, ?_⟩
  · intro key h hget
    rw [hempty] at hget
    cases hget
  · intro key key' h hget
    rw [hempty] at hget
    cases hget
  · intro s id h hget
    rw [hempty] at hget
    cases hget

theorem Reachable.merges (ha : a.Reachable) : a.Merges 0 := by
  refine (kept_merges 0).reachable ?_ ?_ ha
  · intro a p ha
    obtain ⟨scene, layouts, menuTemplates, hscene, hprepare⟩ := a.prepare_eq p
    rw [hprepare]
    exact ha.keep hscene.size_le (fun h hh => hscene.id_widget hh) rfl
  · intro settings start hstart
    rw [create_eq_ok hstart]
    exact ⟨Nat.zero_le _, nofun, nofun, nofun⟩

end Assembler

/-! ## Work at one site -/

namespace Work

variable {σ : Type} [DecidableEq σ] {t : Task σ} {s : σ} {w w' w'' : Work σ}

/-- `w'` has all that `w` has, and what is new in it are the widgets of
places of the site `s` that had none. -/
structure Places (s : σ) (w w' : Work σ) : Prop where
  grows : w.toAssembler.Grows w'.toAssembler
  placed : ∀ h, w.scene.size ≤ h → h < w'.scene.size →
    ∃ key, key.site = s ∧ w.merged.get? key = none ∧ w'.merged.get? key = some h

namespace Places

theorem quiet (hgrows : w.toAssembler.Grows w'.toAssembler)
    (hsize : w'.scene.size = w.scene.size) : Places s w w' := by
  refine ⟨hgrows, ?_⟩
  intro h hlow hhigh
  omega

theorem refl (s : σ) (w : Work σ) : Places s w w := quiet (.refl _) rfl

theorem trans (h : Places s w w') (h' : Places s w' w'') : Places s w w'' := by
  refine ⟨h.grows.trans h'.grows, ?_⟩
  intro x hlow hhigh
  by_cases hx : x < w'.scene.size
  · obtain ⟨key, hsite, hnone, hsome⟩ := h.placed x hlow hx
    exact ⟨key, hsite, hnone, h'.grows.merged key x hsome⟩
  · obtain ⟨key, hsite, hnone, hsome⟩ := h'.placed x (Nat.le_of_not_lt hx) hhigh
    refine ⟨key, hsite, ?_, hsome⟩
    -- A place that had a widget in `w` would have it in `w'`.
    cases hget : w.merged.get? key with
    | none => rfl
    | some y =>
        rw [h.grows.merged key y hget] at hnone
        cases hnone

end Places

instance : IsPreorder (Work σ) (Places s) where
  refl := .refl s
  trans _ _ _ := .trans

theorem Moves.places {sites : List σ} {H H' : Set Nat} (h : Moves t sites (H, w) (H', w'))
    (hsize : w'.scene.size = w.scene.size) : Places s w w' :=
  .quiet h.grows hsize

theorem places_mergedOr {key : MergeKey σ} {create : Work σ → Nat × Work σ}
    (hgrows : w.toAssembler.Grows (w.mergedOr key create).2.toAssembler)
    (hhandle : (create w).1 = w.scene.size) (hsize : (create w).2.scene.size = w.scene.size + 1) :
    Places key.site w (w.mergedOr key create).2 := by
  unfold mergedOr at hgrows ⊢
  cases hget : w.merged.get? key with
  | some x => exact .refl _ w
  | none =>
      rw [hget] at hgrows
      refine ⟨hgrows, ?_⟩
      intro h hlow hhigh
      have hlt : h < (create w).2.scene.size := hhigh
      have hnew : h = (create w).1 := by omega
      refine ⟨key, rfl, hget, ?_⟩
      show (OrderedMap.insert _ key (create w).1).get? key = some h
      rw [OrderedMap.get?_insert, if_pos rfl, hnew]

theorem places_lookupOne (s : σ) (className : String) (containers : List Nat) (id : Int32) :
    Places s w (lookupOne t s className containers w id).2 := by
  have hfinish : ∀ r : Nat × Work σ, Places s w r.2 →
      Places s w ((r.2.nameAfter r.1 (t.query.definedLocal s)).tag t.origin r.1) := by
    intro r hr
    have hmoves : Moves t [s] (Set.univ, r.2)
        (Set.univ, (r.2.nameAfter r.1 (t.query.definedLocal s)).tag t.origin r.1) :=
      (moves_nameAfter r.2 _ (Set.mem_univ _)).tail (.tag (Set.mem_univ _))
    exact hr.trans (hmoves.places (r.2.size_nameAfter r.1 _))
  rw [lookupOne_eq]
  cases containers.findSome? fun c => w.scene.find? c id with
  | some h => exact hfinish (h, w) (.refl s w)
  | none =>
      let r := w.mergedOr (.lookup s id) fun w => w.createWidget id className (w.kindOf className)
      have hmoves : Moves t [s] (∅, w) (insert r.1 ∅, r.2) :=
        moves_mergedOr_lookup w id className List.mem_cons_self
      exact hfinish r (places_mergedOr hmoves.grows rfl (Scene.size_create ..))

theorem places_lookup (s call : σ) (className : String) :
    Places s w (w.lookup t s call className) := by
  have hasked : Moves t [s] (∅, w) (∅, (w.askInts t (.arg 0) call).2) :=
    moves_askInts w (.arg 0) call
  refine (hasked.places (by simp)).trans ?_
  let w₁ := (w.askInts t (.arg 0) call).2
  let containers := w₁.bound (t.query.receiver call)
  let r := collect (lookupOne t s className containers) (lookupIds (w.askInts t (.arg 0) call).1) w₁
  have hcollect : Places s w₁ r.2 :=
    collect_related (R := Places s) (fun _ id => places_lookupOne s className containers id) _ _
  refine hcollect.trans ?_
  have hbinds : Moves t [s] (Set.univ, r.2) (Set.univ, w.lookup t s call className) :=
    (moves_bindLocal r.2 (t.query.definedLocal call) fun _ _ => Set.mem_univ _).trans
      (moves_bindLocal _ (t.query.definedLocal s) fun _ _ => Set.mem_univ _)
  exact hbinds.places (by simp [lookup_eq, r, w₁, containers])

theorem places_allocation (t : Task σ) (s : σ) (className : String) (kind : Work σ → WidgetKind)
    (hkind : (kind w).bare = kind w) :
    Places s w (w.mergedOr (.allocation s) fun w => w.createDynamic className (kind w)).2 := by
  let r := w.mergedOr (.allocation s) fun w => w.createDynamic className (kind w)
  have hmoves : Moves t [s] (∅, w) (insert r.1 ∅, r.2) :=
    moves_mergedOr_allocation w className kind hkind List.mem_cons_self
  exact places_mergedOr hmoves.grows rfl (Scene.size_create ..)

theorem places_allocate (s : σ) (className : String) :
    Places s w (w.allocate t s className) := by
  have hquiet : Moves t [s] (∅, w) (∅, w.allocate t s className) :=
    moves_allocate w className List.mem_cons_self
  rw [allocate_eq] at hquiet ⊢
  dsimp only at hquiet ⊢
  split
  · rename_i hbuilder
    rw [if_pos hbuilder] at hquiet
    exact hquiet.places (by simp)
  · split
    · refine (places_allocation t s className (fun w => w.kindOf className)
        (kindOf_bare w className)).trans ?_
      generalize (w.mergedOr (.allocation s) fun w =>
        w.createDynamic className (w.kindOf className)) = r
      have hmoves : Moves t [s] (Set.univ, r.2) (Set.univ,
          ((r.2.nameAfter r.1 (t.query.definedLocal s)).tag t.origin r.1).bindLocal
            (t.query.definedLocal s) [r.1]) :=
        ((moves_nameAfter r.2 _ (Set.mem_univ _)).tail (.tag (Set.mem_univ _))).trans
          (moves_bindOne _ _ (Set.mem_univ _))
      refine hmoves.places ?_
      rw [scene_bindLocal]
      exact r.2.size_nameAfter r.1 _
    · rename_i hbuilder hwidget
      rw [if_neg hbuilder, if_neg hwidget] at hquiet
      exact hquiet.places (by simp)

theorem places_listView (s : σ) : Places s w (w.listView t s) := by
  refine (places_allocation t s Toolkit.listClass (fun _ => .group []) rfl).trans ?_
  rw [listView_eq]
  generalize (w.mergedOr (.allocation s) fun w =>
    w.createDynamic Toolkit.listClass (.group [])) = r
  have hmoves : Moves t [s] (Set.univ, r.2)
      (Set.univ, (r.2.tag t.origin r.1).bindLocal (t.query.definedLocal s) [r.1]) :=
    .head (.tag (Set.mem_univ _)) (moves_bindOne _ _ (Set.mem_univ _))
  refine hmoves.places ?_
  rw [scene_bindLocal]
  rfl

theorem places_adapterRow (s : σ) (signature : String) :
    Places s w (w.adapterRow t s signature) := by
  refine (places_allocation t s Toolkit.viewClass (fun _ => .view) rfl).trans ?_
  rw [adapterRow_eq]
  generalize (w.mergedOr (.allocation s) fun w => w.createDynamic Toolkit.viewClass .view) = r
  dsimp only
  generalize (r.2.tag t.origin r.1).containerArg t s (Signature.callParams signature) = parents
  have hmoves : Moves t [s] (Set.univ, r.2) (Set.univ,
      ((r.2.tag t.origin r.1).attachAll parents [r.1]).bindLocal (t.query.definedLocal s) [r.1]) :=
    .head (.tag (Set.mem_univ _))
      ((moves_attachAll _ (fun _ _ => Set.mem_univ _) fun _ _ => Set.mem_univ _).trans
        (moves_bindOne _ _ (Set.mem_univ _)))
  refine hmoves.places ?_
  rw [scene_bindLocal, size_attachAll]
  rfl

/-! ## All actions -/

/-- Work at no site leaves the table alone. -/
theorem Moves.merged_eq {x y : Set Nat × Work σ} (h : Moves t [] x y) :
    y.2.merged = x.2.merged := by
  induction h with
  | refl => rfl
  | tail _ hmove ih =>
      rw [← ih]
      cases hmove with
      | lookup _ _ hs => cases hs
      | allocation _ _ hs => cases hs
      | _ => rfl

end Work

/-- The actions whose widgets are of no place: they are made afresh each
time. -/
def Action.Unplaced {σ : Type} : Action σ → Prop
  | .inflate _ => True
  | .showLayout => True
  | .fragment _ => True
  | _ => False

namespace Work

variable {σ : Type} [DecidableEq σ] {t : Task σ}

theorem places_or_unplaced (w : Work σ) (s : σ) (a : Action σ) :
    Places s w (w.perform t s a) ∨ a.Unplaced ∧ (w.perform t s a).merged = w.merged := by
  have hquiet : Moves t [s] (∅, w) (∅, w.perform t s a) := moves_perform w List.mem_cons_self a
  have hunplaced : Moves t [] (∅, w) (∅, w.perform t s a) → (w.perform t s a).merged = w.merged :=
    fun hmoves => hmoves.merged_eq
  cases a with
  | await => exact Or.inl (.refl s w)
  | lookup call className => exact Or.inl (places_lookup s call className)
  | childAt call => exact Or.inl (hquiet.places (by simp [perform, childAt_eq]))
  | clear => exact Or.inl (hquiet.places (by simp [perform]))
  | allocate className => exact Or.inl (places_allocate s className)
  | inflate signature => exact Or.inr ⟨trivial, hunplaced (moves_inflate w s signature)⟩
  | addView => exact Or.inl (hquiet.places (size_attachAll ..))
  | adapterRow signature => exact Or.inl (places_adapterRow s signature)
  | listView => exact Or.inl (places_listView s)
  | showLayout => exact Or.inr ⟨trivial, hunplaced (moves_showLayout w s)⟩
  | showWidget => exact Or.inl (hquiet.places (size_showWidget ..))
  | inflateMenu => exact Or.inl (hquiet.places (size_inflateMenu ..))
  | fragment signature => exact Or.inr ⟨trivial, hunplaced (moves_fragment w s signature)⟩
  | call signature => exact Or.inl (hquiet.places (size_call ..))
  | nothing => exact Or.inl (.refl s w)

end Work

end UiRecovery
