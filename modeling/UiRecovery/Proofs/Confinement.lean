import UiRecovery.Proofs.Histories
import UiRecovery.Proofs.Walks

/-!
# Confinement

Where work can reach. A `Region` names handles, places in the code and
components. An assembler is `Within` a region when the handles that are
known for its places and components lie in it, when it is closed under
children, and when every handle that is still to be issued lies in it.
Then work for these places and components stays in the region: it writes
to none of the widgets outside (`Move.within`).

The templates of a prepared assembler lie outside of the region of all
handles that are not yet issued, and no place in the code and no component
knows of a widget yet. So they stay as they are in all that follows
(`templates_isolated`).
-/

namespace UiRecovery

/-! ## Children after a change -/

theorem Widget.children_appendChildren {e : Widget} (he : e.isContainer = true) (cs : List Nat) :
    (e.appendChildren cs).children = e.children ++ cs := by
  unfold isContainer at he
  unfold appendChildren mapChildren children
  dsimp only
  cases hkind : e.kind with
  | group old => rfl
  | fragment old source tag => rfl
  | view => rw [hkind] at he; cases he
  | text masks => rw [hkind] at he; cases he

theorem Widget.mem_children_appendChildren {e : Widget} {cs : List Nat} {c : Nat}
    (hc : c ∈ (e.appendChildren cs).children) : c ∈ e.children ∨ c ∈ cs := by
  change c ∈ (e.kind.mapChildren (· ++ cs)).children at hc
  show c ∈ e.kind.children ∨ c ∈ cs
  cases hkind : e.kind with
  | view => rw [hkind] at hc; cases hc
  | text masks => rw [hkind] at hc; cases hc
  | group children =>
      rw [hkind] at hc
      exact List.mem_append.mp hc
  | fragment children source tag =>
      rw [hkind] at hc
      exact List.mem_append.mp hc

namespace Scene

/-- The children of a copied widget are copies. -/
theorem size_le_of_mem_children_copyWithId {s : Scene} {h x c : Nat} {id : Int32}
    (hx : s.size ≤ x) (hc : c ∈ (s.copyWithId h id).2.children x) : s.size ≤ c := by
  obtain ⟨e, he, hce⟩ := mem_children.mp hc
  have hcopy : (s.copies (s.depthFirst h) h id)[x - s.size]? = some e := by
    rwa [get?, copyWithId_eq, List.getElem?_append_right hx] at he
  rw [copies, List.getElem?_mapIdx] at hcopy
  obtain ⟨y, -, rfl⟩ := Option.map_eq_some_iff.mp hcopy
  rw [Widget.children_copyAs] at hce
  obtain ⟨d, -, rfl⟩ := List.mem_map.mp hce
  exact Nat.le_add_right _ _

/-! ## Scenes within a set of handles -/

/-- All that differs from `old` lies in `good`, which is closed under
children and holds every handle that is not yet issued. -/
structure Within (good : Nat → Prop) (old s : Scene) : Prop where
  fresh : ∀ h, s.size ≤ h → good h
  same : ∀ h, ¬good h → s.get? h = old.get? h
  children : ∀ h, good h → ∀ c ∈ s.children h, good c

namespace Within

variable {good : Nat → Prop} {old s : Scene}

/-- At first only what is to come is new. -/
theorem refl (s : Scene) : Within (s.size ≤ ·) s s where
  fresh _ hh := hh
  same _ _ := rfl
  children h hh c hc := by
    obtain ⟨e, he, -⟩ := mem_children.mp hc
    rw [get?_eq_none_iff.mpr hh] at he
    cases he

theorem lt_size (hs : Within good old s) {h : Nat} (hh : ¬good h) : h < s.size :=
  Nat.lt_of_not_le fun hle => hh (hs.fresh h hle)

theorem children_eq (hs : Within good old s) {h : Nat} (hh : ¬good h) :
    s.children h = old.children h :=
  Scene.children_congr (hs.same h hh)

theorem modify (hs : Within good old s) {h : Nat} {f : Widget → Widget} (hh : good h)
    (hf : ∀ e, ∀ c ∈ (f e).children, c ∈ e.children ∨ good c) :
    Within good old (s.modify h f) where
  fresh x hx := hs.fresh x (by rwa [size_modify] at hx)
  same x hx := by
    have hne : h ≠ x := fun heq => hx (heq ▸ hh)
    rw [get?_modify, if_neg hne]
    exact hs.same x hx
  children x hx c hc := by
    obtain ⟨e', he', hce'⟩ := mem_children.mp hc
    rw [get?_modify] at he'
    split at he'
    · obtain ⟨e, he, rfl⟩ := Option.map_eq_some_iff.mp he'
      rcases hf e c hce' with hce | hgood
      · exact hs.children x hx c (mem_children.mpr ⟨e, he, hce⟩)
      · exact hgood
    · exact hs.children x hx c (mem_children.mpr ⟨e', he', hce'⟩)

theorem create (hs : Within good old s) (id : Int32) (className : String) {kind : WidgetKind}
    (hkind : kind.children = []) : Within good old (s.create id className kind).2 where
  fresh x hx := hs.fresh x (by rw [size_create] at hx; omega)
  same x hx := by
    have hlt := hs.lt_size hx
    rw [get?_create, if_neg (by omega)]
    exact hs.same x hx
  children x hx c hc := by
    obtain ⟨e, he, hce⟩ := mem_children.mp hc
    rw [get?_create] at he
    split at he
    · obtain rfl := Option.some.inj he
      rw [show Widget.children _ = kind.children from rfl, hkind] at hce
      cases hce
    · exact hs.children x hx c (mem_children.mpr ⟨e, he, hce⟩)

theorem copyWithId (hs : Within good old s) (h : Nat) (id : Int32) :
    Within good old (s.copyWithId h id).2 where
  fresh x hx := hs.fresh x (by rw [size_copyWithId] at hx; omega)
  same x hx := by
    rw [get?_copyWithId_of_lt s id (hs.lt_size hx)]
    exact hs.same x hx
  children x hx c hc := by
    by_cases hlt : x < s.size
    · refine hs.children x hx c ?_
      obtain ⟨e, he, hce⟩ := mem_children.mp hc
      rw [get?_copyWithId_of_lt s id hlt] at he
      exact mem_children.mpr ⟨e, he, hce⟩
    · exact hs.fresh c (size_le_of_mem_children_copyWithId (Nat.le_of_not_lt hlt) hc)

theorem advanceMint (hs : Within good old s) (n : Nat) :
    Within good old (s.advanceMint n) :=
  ⟨hs.fresh, hs.same, hs.children⟩

end Within

end Scene

/-! ## Work within a region -/

theorem OrderedSet.mem_getD_empty {α : Type} {s : Option (OrderedSet α)} {a : α} :
    a ∈ s.getD ∅ ↔ ∃ t, s = some t ∧ a ∈ t := by
  cases s with
  | none => simp [OrderedSet.mem_def]
  | some t => simp

/-- Handles, with the places in the code and the components that may know
of them. -/
structure Region (σ : Type) where
  handle : Nat → Prop
  place : σ → Prop
  component : Origin → Prop

/-- The scene is that of `old` outside of the region, and what is known for
the places and the components of the region lies in it. -/
structure Assembler.Within {σ : Type} [DecidableEq σ] (r : Region σ) (old : Scene)
    (a : Assembler σ) : Prop where
  scene : Scene.Within r.handle old a.scene
  merged : ∀ key h, r.place key.site → a.merged.get? key = some h → r.handle h
  roots : ∀ o roots, r.component o → a.roots.get? o = some roots → ∀ h ∈ roots, r.handle h

namespace Work

variable {σ : Type} [DecidableEq σ]

structure Within (r : Region σ) (old : Scene) (x : Set Nat × Work σ) : Prop where
  toAssembler : x.2.toAssembler.Within r old
  held : ∀ h ∈ x.1, r.handle h
  locals : ∀ name hs, x.2.locals.get? name = some hs → ∀ h ∈ hs, r.handle h

variable {r : Region σ} {old : Scene} {t : Task σ} {sites : List σ}

namespace Within

theorem bound {x : Set Nat × Work σ} (hx : Within r old x) {name : Option String} {h : Nat}
    (hh : h ∈ x.2.bound name) : r.handle h := by
  unfold Work.bound at hh
  split at hh
  · rename_i hs hget
    obtain ⟨n, -, hn⟩ := Option.bind_eq_some_iff.mp hget
    exact hx.locals n hs hn h hh
  · cases hh

/-- Within a region, nothing outside of it can be taken in hand. -/
theorem graspable {H : Set Nat} {w : Work σ} (hw : Within r old (H, w))
    (hplace : ∀ s ∈ sites, r.place s) (hcomponent : r.component t.origin) {h : Nat}
    (hh : Graspable t sites H w h) : r.handle h := by
  induction hh with
  | held hh => exact hw.held _ hh
  | bound hh => exact hw.bound hh
  | merged key hkey hh => exact hw.toAssembler.merged key _ (hplace _ hkey) hh
  | screen hroots hh => exact hw.toAssembler.roots _ _ hcomponent hroots _ hh
  | child _ hc ih => exact hw.toAssembler.scene.children _ ih _ hc

/-- A change of the scene, and of what no handle is known from. -/
theorem frame {H : Set Nat} {w w' : Work σ} (hw : Within r old (H, w))
    (hscene : Scene.Within r.handle old w'.scene) (hmerged : w'.merged = w.merged)
    (hroots : w'.roots = w.roots) (hlocals : w'.locals = w.locals) :
    Within r old (H, w') where
  toAssembler :=
    ⟨hscene, hmerged ▸ hw.toAssembler.merged, hroots ▸ hw.toAssembler.roots⟩
  held := hw.held
  locals := hlocals ▸ hw.locals

/-- Take a further handle in hand. -/
theorem insert {H : Set Nat} {w : Work σ} {h : Nat} (hw : Within r old (H, w))
    (hh : r.handle h) : Within r old (insert h H, w) where
  toAssembler := hw.toAssembler
  held x hx := by
    rcases Set.mem_insert_iff.mp hx with rfl | hx
    · exact hh
    · exact hw.held x hx
  locals := hw.locals

/-- A change of the scene, after which a place stands for a widget. -/
theorem merge {H : Set Nat} {w w' : Work σ} {key : MergeKey σ} {h : Nat}
    (hw : Within r old (H, w)) (hh : r.handle h)
    (hscene : Scene.Within r.handle old w'.scene) (hmerged : w'.merged = w.merged.insert key h)
    (hroots : w'.roots = w.roots) (hlocals : w'.locals = w.locals) :
    Within r old (H, w') where
  toAssembler := by
    refine ⟨hscene, fun key' x hplace hget => ?_, hroots ▸ hw.toAssembler.roots⟩
    rw [hmerged, OrderedMap.get?_insert] at hget
    split at hget
    · exact Option.some.inj hget ▸ hh
    · exact hw.toAssembler.merged key' x hplace hget
  held := hw.held
  locals := hlocals ▸ hw.locals

end Within

/-- Work for the places and components of a region stays within it. -/
theorem Move.within {x y : Set Nat × Work σ} (h : Move t sites x y)
    (hplace : ∀ s ∈ sites, r.place s) (hcomponent : r.component t.origin)
    (hx : Within r old x) : Within r old y := by
  have hscene := hx.toAssembler.scene
  have hnew : r.handle x.2.scene.size := hscene.fresh _ le_rfl
  cases h with
  | grasp hH =>
      exact ⟨hx.toAssembler, fun h hh => hx.graspable hplace hcomponent (hH h hh), hx.locals⟩
  | report => exact ⟨hx.toAssembler, hx.held, hx.locals⟩
  | bind name hhs =>
      refine ⟨hx.toAssembler, hx.held, fun name' hs' hget h hh => ?_⟩
      rw [OrderedMap.get?_insert] at hget
      split at hget
      · obtain rfl := Option.some.inj hget
        exact hx.held h (hhs h hh)
      · exact hx.locals name' hs' hget h hh
  | forget name =>
      refine ⟨hx.toAssembler, hx.held, fun name' hs' hget h hh => ?_⟩
      rw [OrderedMap.get?_erase] at hget
      split at hget
      · cases hget
      · exact hx.locals name' hs' hget h hh
  | learn hh hf =>
      refine hx.frame (hscene.modify (hx.held _ hh) fun e c hc => ?_) rfl rfl rfl
      exact Or.inl ((hf e).children_eq ▸ hc)
  | tag => exact hx.frame hscene rfl rfl rfl
  | attach hparent hchild =>
      refine hx.frame (hscene.modify (hx.held _ hparent) fun e c hc => ?_) rfl rfl rfl
      rcases Widget.mem_children_appendChildren hc with hc | hc
      · exact Or.inl hc
      · exact Or.inr (List.mem_singleton.mp hc ▸ hx.held _ hchild)
  | addRoots hhs =>
      refine ⟨⟨hscene, hx.toAssembler.merged, fun o roots ho hget h hh => ?_⟩,
        hx.held, hx.locals⟩
      rw [OrderedMap.get?_update] at hget
      split at hget
      · obtain rfl := Option.some.inj hget
        rcases OrderedSet.mem_insertAll.mp hh with hh | hh
        · obtain ⟨roots, hroots, hh⟩ := OrderedSet.mem_getD_empty.mp hh
          exact hx.toAssembler.roots t.origin roots hcomponent hroots h hh
        · exact hx.held h (hhs h hh)
      · exact hx.toAssembler.roots o roots ho hget h hh
  | lookup className kind =>
      refine Within.insert (hx.merge hnew ?_ rfl rfl rfl) hnew
      exact hscene.create _ className kind.children_bare
  | allocation className kind =>
      refine Within.insert (hx.merge hnew ?_ rfl rfl rfl) hnew
      exact hscene.create _ className kind.children_bare
  | slot className tag =>
      refine Within.insert (hx.frame ?_ rfl rfl rfl) hnew
      exact hscene.create _ className rfl
  | copy =>
      refine Within.insert (hx.frame ?_ rfl rfl rfl) hnew
      exact hscene.copyWithId _ _
  | menu => exact hx.frame (hscene.advanceMint _) rfl rfl rfl
  | draft => exact hx.frame hscene rfl rfl rfl
  | bindDraft => exact hx.frame hscene rfl rfl rfl
  | forgetDraft => exact hx.frame hscene rfl rfl rfl
  | describe => exact hx.frame hscene rfl rfl rfl
  | button => exact hx.frame (hscene.advanceMint _) rfl rfl rfl
  | call => exact hx.frame hscene rfl rfl rfl

end Work

/-! ## Templates -/

/-- All handles from `n` on, for all code. -/
def Region.above (σ : Type) (n : Nat) : Region σ where
  handle h := n ≤ h
  place _ := True
  component _ := True

namespace Assembler

variable {σ : Type} [DecidableEq σ]

theorem kept_within_above (n : Nat) (old : Scene) :
    Kept (Within (.above σ n) old) (Work.Within (.above σ n) old) where
  begins _ _ ha := ⟨ha, nofun, nofun⟩
  moves hmove hx := hmove.within (fun _ _ => trivial) trivial hx
  fails _ hw := hw.toAssembler
  ends _ _ hw := ⟨hw.toAssembler.scene, hw.toAssembler.merged, hw.toAssembler.roots⟩
  skips _ _ ha := ⟨ha.scene, ha.merged, ha.roots⟩

omit [DecidableEq σ] in
/-- As long as an assembler is only prepared, no place in the code and no
screen knows of a widget. -/
theorem Prepared.unassembled {a : Assembler σ} (ha : a.Prepared) :
    a.merged = ∅ ∧ a.roots = ∅ :=
  ⟨congrArg merged ha.pristine, congrArg roots ha.pristine⟩

theorem Prepared.within_above {a : Assembler σ} (ha : a.Prepared) :
    a.Within (.above σ a.scene.size) a.scene where
  scene := .refl a.scene
  merged key h _ hget := by
    rw [ha.unassembled.1] at hget
    cases hget
  roots o roots _ hget := by
    rw [ha.unassembled.2] at hget
    cases hget

/-- Templates are isolated. However a prepared assembler is used later on,
the widgets that it was prepared with stay as they are, and no later
widget has one of them as a child. -/
theorem templates_isolated {a : Assembler σ} (ha : a.Prepared)
    (calls : List (AssemblyCall σ)) :
    let b := calls.foldl assembled a
    (∀ h < a.scene.size, b.scene.get? h = a.scene.get? h) ∧
      ∀ h ≥ a.scene.size, ∀ c ∈ b.scene.children h, a.scene.size ≤ c := by
  intro b
  have hb : b.Within (.above σ a.scene.size) a.scene :=
    (kept_within_above a.scene.size a.scene).foldl_assembled calls ha.within_above
  exact ⟨fun h hh => hb.scene.same h (Nat.not_le_of_lt hh), hb.scene.children⟩

/-- The box is shown and given a text. The text goes to the copy. -/
theorem templates_isolated_labelledBox :
    let a := labelledBox
    let calls := [AssemblyCall.method
      (.straightLine ["void setContentView(int)", "void setText(int)"]) [0, 1]]
    let b := calls.foldl assembled a
    a.Prepared ∧ a.scene.size = 2 ∧ b.scene.children 2 = [3] ∧
      (b.scene.widget 2).texts.toList = [Attr.dynamic "text" "100"] ∧
      (∀ h < 2, b.scene.get? h = a.scene.get? h) ∧
      ∀ h ≥ 2, ∀ c ∈ b.scene.children h, 2 ≤ c :=
  ⟨prepared_labelledBox, by decide, by decide +kernel, by decide +kernel,
    templates_isolated prepared_labelledBox _⟩

end Assembler

end UiRecovery
