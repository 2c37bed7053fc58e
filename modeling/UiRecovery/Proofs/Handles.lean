import UiRecovery.Proofs.Confinement

/-!
# Handles in range

A scene is `InRange` when no widget has a child that is not in it, and an
assembler is `Bounded` when all handles that it keeps are in its scene:
those of children, of layouts, of the places in the code and of the
screens. `Work.Bounded` adds the locals and the hand. The scene only gets
larger, so a handle that is in range stays so, and every move takes its
handles from what is in range (`Move.bounded`).

Work that never gets hold of a widget below `n` does not depend on the
children of those widgets. So all of it is shown of `Grounded n` first,
which has no word about them; `Grounded 0` is `Bounded`.

Together with `Confinement` this puts whatever work gets hold of between
the templates and the end of the scene.
-/

namespace UiRecovery

namespace Scene

/-- Every child is in the scene. -/
def InRange (s : Scene) : Prop := ∀ h, ∀ c ∈ s.children h, c < s.size

/-- Every child of a widget from `n` on is in the scene. -/
def InRangeFrom (n : Nat) (s : Scene) : Prop := ∀ h, n ≤ h → ∀ c ∈ s.children h, c < s.size

variable {s : Scene} {n : Nat}

/-- A handle that is not in the scene has no children. -/
theorem inRange_iff : s.InRange ↔ ∀ h < s.size, ∀ c ∈ s.children h, c < s.size := by
  constructor
  · intro hs h _
    exact hs h
  · intro hs h c hc
    exact hs h (lt_size_of_mem_children hc) c hc

instance : Decidable s.InRange := decidable_of_iff _ inRange_iff.symm

theorem inRangeFrom_zero : InRangeFrom 0 s ↔ s.InRange :=
  ⟨fun hs h => hs h (Nat.zero_le h), fun hs h _ => hs h⟩

theorem get?_of_lt {h : Nat} (hh : h < s.size) :
    s.get? h = some (s.widget h) := by
  unfold widget
  cases hget : s.get? h with
  | none => exact absurd hh (Nat.not_lt_of_le (get?_eq_none_iff.mp hget))
  | some e => rfl

theorem InRange.reaches (hs : s.InRange) {h x : Nat} (hh : h < s.size) (hx : s.Reaches h x) :
    x < s.size := by
  induction hx with
  | refl => exact hh
  | tail _ hc _ => exact hs _ _ hc

theorem InRangeFrom.modify (hs : InRangeFrom n s) (h : Nat) {f : Widget → Widget}
    (hf : ∀ e, ∀ c ∈ (f e).children, c ∈ e.children ∨ c < s.size) :
    InRangeFrom n (s.modify h f) := by
  intro x hx c hc
  rw [size_modify]
  obtain ⟨e', he', hce'⟩ := mem_children.mp hc
  rw [get?_modify] at he'
  split at he'
  · obtain ⟨e, he, rfl⟩ := Option.map_eq_some_iff.mp he'
    rcases hf e c hce' with hce | hlt
    · exact hs x hx c (mem_children.mpr ⟨e, he, hce⟩)
    · exact hlt
  · exact hs x hx c (mem_children.mpr ⟨e', he', hce'⟩)

theorem InRange.modify (hs : s.InRange) (h : Nat) {f : Widget → Widget}
    (hf : ∀ e, ∀ c ∈ (f e).children, c ∈ e.children ∨ c < s.size) : (s.modify h f).InRange :=
  inRangeFrom_zero.mp ((inRangeFrom_zero.mpr hs).modify h hf)

theorem InRangeFrom.create (hs : InRangeFrom n s) (id : Int32) (className : String)
    {kind : WidgetKind} (hkind : kind.children = []) :
    InRangeFrom n (s.create id className kind).2 := by
  intro x hx c hc
  obtain ⟨e, he, hce⟩ := mem_children.mp hc
  rw [get?_create] at he
  rw [size_create]
  split at he
  · obtain rfl := Option.some.inj he
    rw [show Widget.children _ = kind.children from rfl, hkind] at hce
    cases hce
  · exact Nat.lt_succ_of_lt (hs x hx c (mem_children.mpr ⟨e, he, hce⟩))

theorem InRange.create (hs : s.InRange) (id : Int32) (className : String) {kind : WidgetKind}
    (hkind : kind.children = []) : (s.create id className kind).2.InRange :=
  inRangeFrom_zero.mp ((inRangeFrom_zero.mpr hs).create id className hkind)

theorem size_lt_size_copyWithId (s : Scene) (h : Nat) (id : Int32) :
    s.size < (s.copyWithId h id).2.size := by
  have hlength := (s.prefix_depthFirst h).length_le
  rw [List.length_singleton] at hlength
  rw [size_copyWithId]
  omega

/-- The children of a copy are copies, whatever is copied. -/
theorem InRangeFrom.copyWithId (hs : InRangeFrom n s) (h : Nat) (id : Int32) :
    InRangeFrom n (s.copyWithId h id).2 := by
  intro x hxn c hc
  by_cases hx : x < s.size
  · obtain ⟨e, he, hce⟩ := mem_children.mp hc
    rw [get?_copyWithId_of_lt s id hx] at he
    exact (hs x hxn c (mem_children.mpr ⟨e, he, hce⟩)).trans (s.size_lt_size_copyWithId h id)
  · -- The copy at `x` is that of some widget, whose children the walk found.
    obtain ⟨i, rfl⟩ := Nat.exists_eq_add_of_le (Nat.le_of_not_lt hx)
    obtain ⟨e, he, -⟩ := mem_children.mp hc
    rw [get?_copyWithId_add] at he
    obtain ⟨y, hy, -⟩ := Option.map_eq_some_iff.mp he
    have hreach : s.Reaches h y := mem_depthFirst.mp (List.mem_of_getElem? hy)
    rw [← copyHandle_getElem hy, children_copyWithId s id hreach] at hc
    obtain ⟨d, hd, rfl⟩ := List.mem_map.mp hc
    exact copyHandle_lt id (hreach.tail hd)

theorem InRange.copyWithId (hs : s.InRange) (h : Nat) (id : Int32) :
    (s.copyWithId h id).2.InRange :=
  inRangeFrom_zero.mp ((inRangeFrom_zero.mpr hs).copyWithId h id)

end Scene

/-- All handles that an assembler keeps are in its scene. -/
structure Assembler.Bounded {σ : Type} [DecidableEq σ] (a : Assembler σ) : Prop where
  scene : a.scene.InRange
  layouts : ∀ id layout, a.layouts.get? id = some layout → ∀ h ∈ layout.roots, h < a.scene.size
  merged : ∀ key h, a.merged.get? key = some h → h < a.scene.size
  roots : ∀ o roots, a.roots.get? o = some roots → ∀ h ∈ roots, h < a.scene.size

/-- All handles that an assembler keeps are in its scene, those of the
children of widgets below `n` perhaps excepted. -/
structure Assembler.Grounded {σ : Type} [DecidableEq σ] (n : Nat) (a : Assembler σ) : Prop where
  scene : a.scene.InRangeFrom n
  layouts : ∀ id layout, a.layouts.get? id = some layout → ∀ h ∈ layout.roots, h < a.scene.size
  merged : ∀ key h, a.merged.get? key = some h → h < a.scene.size
  roots : ∀ o roots, a.roots.get? o = some roots → ∀ h ∈ roots, h < a.scene.size

theorem Assembler.grounded_zero {σ : Type} [DecidableEq σ] {a : Assembler σ} :
    Grounded 0 a ↔ a.Bounded :=
  ⟨fun ha => ⟨Scene.inRangeFrom_zero.mp ha.scene, ha.layouts, ha.merged, ha.roots⟩,
    fun ha => ⟨Scene.inRangeFrom_zero.mpr ha.scene, ha.layouts, ha.merged, ha.roots⟩⟩

namespace Work

variable {σ : Type} [DecidableEq σ] {t : Task σ} {sites : List σ} {n : Nat}

structure Bounded (x : Set Nat × Work σ) : Prop where
  toAssembler : x.2.toAssembler.Bounded
  held : ∀ h ∈ x.1, h < x.2.scene.size
  locals : ∀ name hs, x.2.locals.get? name = some hs → ∀ h ∈ hs, h < x.2.scene.size

structure Grounded (n : Nat) (x : Set Nat × Work σ) : Prop where
  toAssembler : x.2.toAssembler.Grounded n
  held : ∀ h ∈ x.1, h < x.2.scene.size
  locals : ∀ name hs, x.2.locals.get? name = some hs → ∀ h ∈ hs, h < x.2.scene.size

theorem grounded_zero {x : Set Nat × Work σ} : Grounded 0 x ↔ Bounded x :=
  ⟨fun hx => ⟨Assembler.grounded_zero.mp hx.toAssembler, hx.held, hx.locals⟩,
    fun hx => ⟨Assembler.grounded_zero.mpr hx.toAssembler, hx.held, hx.locals⟩⟩

namespace Grounded

theorem bound {x : Set Nat × Work σ} (hx : Grounded n x) {name : Option String} {h : Nat}
    (hh : h ∈ x.2.bound name) : h < x.2.scene.size := by
  unfold Work.bound at hh
  split at hh
  · rename_i hs hget
    obtain ⟨name', -, hname⟩ := Option.bind_eq_some_iff.mp hget
    exact hx.locals name' hs hname h hh
  · cases hh

/-- What can be taken in hand is in the scene, if nothing below `n` can
be. -/
theorem graspable {H : Set Nat} {w : Work σ} (hw : Grounded n (H, w))
    (hlow : ∀ h, Graspable t sites H w h → n ≤ h) {h : Nat} (hh : Graspable t sites H w h) :
    h < w.scene.size := by
  induction hh with
  | held hh => exact hw.held _ hh
  | bound hh => exact hw.bound hh
  | merged key _ hh => exact hw.toAssembler.merged key _ hh
  | screen hroots hh => exact hw.toAssembler.roots _ _ hroots _ hh
  | child hh hc _ => exact hw.toAssembler.scene _ (hlow _ hh) _ hc

/-- The scene gets larger, and nothing else changes from which handles are
known. -/
theorem enlarge {H : Set Nat} {w w' : Work σ} (hw : Grounded n (H, w))
    (hscene : w'.scene.InRangeFrom n) (hsize : w.scene.size ≤ w'.scene.size)
    (hlayouts : w'.layouts = w.layouts) (hmerged : w'.merged = w.merged)
    (hroots : w'.roots = w.roots) (hlocals : w'.locals = w.locals) : Grounded n (H, w') where
  toAssembler :=
    { scene := hscene
      layouts := fun id layout hget h hh =>
        (hw.toAssembler.layouts id layout (hlayouts ▸ hget) h hh).trans_le hsize
      merged := fun key h hget => (hw.toAssembler.merged key h (hmerged ▸ hget)).trans_le hsize
      roots := fun o roots hget h hh =>
        (hw.toAssembler.roots o roots (hroots ▸ hget) h hh).trans_le hsize }
  held h hh := (hw.held h hh).trans_le hsize
  locals name hs hget h hh := (hw.locals name hs (hlocals ▸ hget) h hh).trans_le hsize

theorem insert {H : Set Nat} {w : Work σ} {h : Nat} (hw : Grounded n (H, w))
    (hh : h < w.scene.size) : Grounded n (insert h H, w) where
  toAssembler := hw.toAssembler
  held x hx := by
    rcases Set.mem_insert_iff.mp hx with rfl | hx
    · exact hh
    · exact hw.held x hx
  locals := hw.locals

/-- A place comes to stand for a widget of the scene. -/
theorem merge {H : Set Nat} {w : Work σ} {key : MergeKey σ} {h : Nat} (hw : Grounded n (H, w))
    (hh : h < w.scene.size) : Grounded n (H, { w with merged := w.merged.insert key h }) where
  toAssembler :=
    { hw.toAssembler with
      merged := fun key' x hget => by
        rw [OrderedMap.get?_insert] at hget
        split at hget
        · exact Option.some.inj hget ▸ hh
        · exact hw.toAssembler.merged key' x hget }
  held := hw.held
  locals := hw.locals

end Grounded

/-- A new widget is in the scene that it was added to. -/
theorem grounded_createWidget {H : Set Nat} {w : Work σ} (hw : Grounded n (H, w)) (id : Int32)
    (className : String) {kind : WidgetKind} (hkind : kind.children = []) :
    Grounded n (insert w.scene.size H, (w.createWidget id className kind).2) := by
  have hsize : (w.createWidget id className kind).2.scene.size = w.scene.size + 1 :=
    Scene.size_create ..
  refine Grounded.insert ?_ (by omega)
  exact hw.enlarge (hw.toAssembler.scene.create id className hkind) (by omega) rfl rfl rfl rfl

theorem Move.grounded {x y : Set Nat × Work σ} (h : Move t sites x y)
    (hlow : ∀ h, Graspable t sites x.1 x.2 h → n ≤ h) (hx : Grounded n x) : Grounded n y := by
  have hscene := hx.toAssembler.scene
  cases h with
  | grasp hH => exact ⟨hx.toAssembler, fun h hh => hx.graspable hlow (hH h hh), hx.locals⟩
  | bind name hhs =>
      refine ⟨hx.toAssembler, hx.held, fun name' hs' hget h hh => ?_⟩
      rw [OrderedMap.get?_insert] at hget
      split at hget
      · obtain rfl := Option.some.inj hget
        exact hx.held h (hhs h hh)
      · exact hx.locals name' hs' hget h hh
  | forget name =>
      refine ⟨hx.toAssembler, hx.held, fun name' hs' hget h hh => ?_⟩
      rw [OrderedMap.get?_erase] at hget
      split at hget
      · cases hget
      · exact hx.locals name' hs' hget h hh
  | learn hh hf =>
      refine hx.enlarge (hscene.modify _ fun e c hc => ?_) (Scene.size_modify ..).ge rfl rfl rfl rfl
      exact Or.inl ((hf e).children_eq ▸ hc)
  | attach hparent hchild =>
      refine hx.enlarge (hscene.modify _ fun e c hc => ?_) (Scene.size_modify ..).ge rfl rfl rfl rfl
      rcases Widget.mem_children_appendChildren hc with hc | hc
      · exact Or.inl hc
      · exact Or.inr (List.mem_singleton.mp hc ▸ hx.held _ hchild)
  | addRoots hhs =>
      refine ⟨{ hx.toAssembler with roots := fun o roots hget h hh => ?_ }, hx.held, hx.locals⟩
      rw [OrderedMap.get?_update] at hget
      split at hget
      · obtain rfl := Option.some.inj hget
        rcases OrderedSet.mem_insertAll.mp hh with hh | hh
        · obtain ⟨roots, hroots, hh⟩ := OrderedSet.mem_getD_empty.mp hh
          exact hx.toAssembler.roots t.origin roots hroots h hh
        · exact hx.held h (hhs h hh)
      · exact hx.toAssembler.roots o roots hget h hh
  | @lookup H w s id className kind =>
      have hnew := grounded_createWidget hx id className kind.children_bare
      exact hnew.merge (hnew.held _ (Set.mem_insert _ _))
  | @allocation H w s className kind =>
      have hdrawn : Grounded n (H, w.drawId.2) := hx.enlarge hscene le_rfl rfl rfl rfl rfl
      have hnew := grounded_createWidget hdrawn w.nextDynamicId className kind.children_bare
      exact hnew.merge (hnew.held _ (Set.mem_insert _ _))
  | slot className tag => exact grounded_createWidget hx _ className rfl
  | @copy H w id layout h =>
      have hlt := w.scene.size_lt_size_copyWithId h (w.scene.widget h).id
      refine Grounded.insert ?_ hlt
      exact hx.enlarge (hscene.copyWithId h _) hlt.le rfl rfl rfl rfl
  | _ => exact hx.enlarge hscene le_rfl rfl rfl rfl rfl

/-! ## Without exception -/

namespace Bounded

theorem bound {x : Set Nat × Work σ} (hx : Bounded x) {name : Option String} {h : Nat}
    (hh : h ∈ x.2.bound name) : h < x.2.scene.size :=
  (grounded_zero.mpr hx).bound hh

theorem graspable {H : Set Nat} {w : Work σ} (hw : Bounded (H, w)) {h : Nat}
    (hh : Graspable t sites H w h) : h < w.scene.size :=
  (grounded_zero.mpr hw).graspable (fun h _ => Nat.zero_le h) hh

theorem enlarge {H : Set Nat} {w w' : Work σ} (hw : Bounded (H, w)) (hscene : w'.scene.InRange)
    (hsize : w.scene.size ≤ w'.scene.size) (hlayouts : w'.layouts = w.layouts)
    (hmerged : w'.merged = w.merged) (hroots : w'.roots = w.roots)
    (hlocals : w'.locals = w.locals) : Bounded (H, w') :=
  grounded_zero.mp ((grounded_zero.mpr hw).enlarge (Scene.inRangeFrom_zero.mpr hscene) hsize
    hlayouts hmerged hroots hlocals)

theorem insert {H : Set Nat} {w : Work σ} {h : Nat} (hw : Bounded (H, w))
    (hh : h < w.scene.size) : Bounded (insert h H, w) :=
  grounded_zero.mp ((grounded_zero.mpr hw).insert hh)

end Bounded

theorem Move.bounded {x y : Set Nat × Work σ} (h : Move t sites x y) (hx : Bounded x) :
    Bounded y :=
  grounded_zero.mp (h.grounded (fun h _ => Nat.zero_le h) (grounded_zero.mpr hx))

theorem Moves.bounded {x y : Set Nat × Work σ} (h : Moves t sites x y) (hx : Bounded x) :
    Bounded y := by
  induction h with
  | refl => exact hx
  | tail _ hmove ih => exact hmove.bounded ih

end Work

/-! ## Histories -/

namespace Assembler

variable {σ : Type} [DecidableEq σ]

theorem kept_bounded : Kept (σ := σ) Bounded Work.Bounded where
  begins _ _ ha := ⟨ha, nofun, nofun⟩
  moves hmove hx := hmove.bounded hx
  fails _ hw := hw.toAssembler
  ends _ _ hw :=
    ⟨hw.toAssembler.scene, hw.toAssembler.layouts, hw.toAssembler.merged, hw.toAssembler.roots⟩
  skips _ _ ha := ⟨ha.scene, ha.layouts, ha.merged, ha.roots⟩

end Assembler

theorem Scene.Prepares.size_le {s s' : Scene} (h : s.Prepares s') : s.size ≤ s'.size := by
  cases h with
  | same => exact le_rfl
  | create => exact (Scene.size_create ..).ge.trans' (Nat.le_succ _)
  | attach => exact (Scene.size_modify ..).ge
  | copyWithId h id => exact (s.size_lt_size_copyWithId h id).le
  | revise => exact (Scene.size_modify ..).ge
  | drawGuid => exact le_rfl

namespace Assembler

variable {σ : Type} [DecidableEq σ]

omit [DecidableEq σ] in
/-- A layout is registered only if its roots are in the scene. -/
theorem layouts_prepare (a : Assembler σ) (p : Preparation) :
    (a.prepare p).layouts = a.layouts ∨
      ∃ id layout, (∀ h ∈ Layout.roots layout, h < a.scene.size) ∧
        (a.prepare p).layouts = a.layouts.insert id layout := by
  cases p with
  | registerLayout id layout =>
      dsimp only [prepare, registerLayout]
      cases hfind : layout.roots.find? fun h => a.scene.size ≤ h with
      | some h => exact Or.inl rfl
      | none =>
          refine Or.inr ⟨id, layout, fun h hh => ?_, rfl⟩
          have hout := List.find?_eq_none.mp hfind h hh
          simpa using hout
  | _ => exact Or.inl rfl

omit [DecidableEq σ] in
theorem Prepared.layouts_inRange {a : Assembler σ} (ha : a.Prepared) :
    ∀ id layout, a.layouts.get? id = some layout → ∀ h ∈ layout.roots, h < a.scene.size := by
  obtain ⟨settings, start, hstart, ps, rfl⟩ := ha
  have hnew : ∀ id layout, start.layouts.get? id = some layout →
      ∀ h ∈ layout.roots, h < start.scene.size := by
    rw [create_eq_ok hstart]
    exact nofun
  clear hstart
  induction ps generalizing start with
  | nil => exact hnew
  | cons p ps ih =>
      refine ih _ fun id layout hget h hh => ?_
      obtain ⟨scene, layouts, menuTemplates, hprepares, hprepare⟩ := start.prepare_eq p
      have hsize : start.scene.size ≤ (start.prepare p).scene.size := by
        rw [hprepare]
        exact hprepares.size_le
      refine Nat.lt_of_lt_of_le ?_ hsize
      rcases start.layouts_prepare p with hsame | ⟨id', layout', hroots, hinsert⟩
      · exact hnew id layout (hsame ▸ hget) h hh
      · rw [hinsert, OrderedMap.get?_insert] at hget
        split at hget
        · obtain rfl := Option.some.inj hget
          exact hroots h hh
        · exact hnew id layout hget h hh

/-- Whatever templates hold, there is no widget behind them yet. -/
theorem Prepared.grounded {a : Assembler σ} (ha : a.Prepared) {n : Nat}
    (hrange : a.scene.InRangeFrom n) : a.Grounded n where
  scene := hrange
  layouts := ha.layouts_inRange
  merged key h hget := by
    rw [ha.unassembled.1] at hget
    cases hget
  roots o roots hget := by
    rw [ha.unassembled.2] at hget
    cases hget

theorem Prepared.bounded {a : Assembler σ} (ha : a.Prepared) (hrange : a.scene.InRange) :
    a.Bounded :=
  grounded_zero.mp (ha.grounded (Scene.inRangeFrom_zero.mpr hrange))

end Assembler

end UiRecovery
