import UiRecovery.Proofs.Twins

/-!
# Lockstep

Work for one task from two states that are alike keeps them alike: each
action, done to both, reads corresponding things and does corresponding
things, so that a run over sites ends alike, and with the same failure if
with any (`Twin.run`).

The lemmas follow the actions one by one, as those of `Actions` do, and take
from there where the work can reach. What is said of the code is that it
speaks of no dynamic id (`Task.IdsAbove`). A lookup by such an id would
find a widget in one state and miss it in the other, as the two have drawn
different ids.
-/

namespace UiRecovery

/-- The handles from `n` on, for the given places and one component. -/
def Region.ahead {σ : Type} (n : Nat) (sites : List σ) (o : Origin) : Region σ where
  handle h := n ≤ h
  place s := s ∈ sites
  component o' := o' = o

/-- The code speaks of no id that is as low as the dynamic ones. -/
structure Task.IdsAbove {σ : Type} (t : Task σ) (top : Int32) : Prop where
  missing : top < Widget.missingId
  ints : ∀ ref s, ∀ id ∈ (t.oracle ref s).ints.filterMap word32?, top < id

theorem neg_one_le_of_word32? {i : Int64} {id : Int32} (hid : word32? i = some id) (hi : -1 ≤ i) :
    -1 ≤ id := by
  rw [Int64.le_iff_toInt_le] at hi
  rw [Int32.le_iff_toInt_le, toInt_of_word32? hid]
  exact hi

/-- Dynamic ids that begin below -1 are spared by values that end there. -/
theorem Task.idsAbove {σ : Type} {t : Task σ} {top : Int32} (htop : top < -1)
    (hints : ∀ ref s, ∀ i ∈ (t.oracle ref s).ints, -1 ≤ i) : t.IdsAbove top where
  missing := htop
  ints ref s id hid := by
    obtain ⟨i, hi, hword⟩ := List.mem_filterMap.mp hid
    exact Int32.lt_of_lt_of_le htop (neg_one_le_of_word32? hword (hints ref s i hi))

theorem Task.IdsAbove.lookupIds {σ : Type} {t : Task σ} {top : Int32} (ht : t.IdsAbove top)
    (ref : ValueRef) (s : σ) : ∀ id ∈ Work.lookupIds (t.oracle ref s).ints, top < id := by
  intro id hid
  unfold Work.lookupIds at hid
  split at hid
  · rw [List.mem_singleton.mp hid]
    exact ht.missing
  · exact ht.ints ref s id hid

theorem Task.IdsAbove.askIntsAt {σ : Type} {t : Task σ} {top : Int32} (ht : t.IdsAbove top)
    (w : Work σ) (position : Option Nat) (s : σ) :
    ∀ id ∈ (w.askIntsAt t position s).1.filterMap word32?, top < id := by
  intro id hid
  cases position with
  | none => exact (List.not_mem_nil hid).elim
  | some i =>
      have hints : (w.askIntsAt t (some i) s).1 = (t.oracle (.arg i) s).ints := Work.fst_askInts ..
      rw [hints] at hid
      exact ht.ints (.arg i) s id hid

namespace Work

variable {σ : Type} [DecidableEq σ] {t : Task σ} {sites : List σ}

theorem Moves.within {r : Region σ} {old : Scene} {x y : Set Nat × Work σ}
    (h : Moves t sites x y) (hplace : ∀ s ∈ sites, r.place s) (hcomponent : r.component t.origin)
    (hx : Within r old x) : Within r old y := by
  induction h with
  | refl => exact hx
  | tail _ hmove ih => exact hmove.within hplace hcomponent ih

/-- Two states that are alike for the task, in the middle of work that
stays behind the handles that both began with. -/
structure Twin (k : Renaming) (t : Task σ) (sites : List σ) (old : Scene) (H : Set Nat)
    (w w' : Work σ) : Prop where
  within : Within (.ahead k.base sites t.origin) old (H, w)
  bounded : Bounded (H, w)
  /-- What both began with holds nothing else. -/
  closed : ∀ h < k.base, ∀ c ∈ old.children h, c < k.base
  alike : Alike k sites t.origin w w'

/-! ## Steps without a hand -/

namespace Alike

variable {k : Renaming} {o : Origin} {w w' : Work σ}

theorem askInts (h : Alike k sites o w w') (t : Task σ) (ref : ValueRef) (s : σ) :
    Alike k sites o (w.askInts t ref s).2 (w'.askInts t ref s).2 := by
  unfold Work.askInts
  dsimp only
  split
  · exact h.report _ _ _ _ _ _
  · exact h

theorem askLabels (h : Alike k sites o w w') (t : Task σ) (ref : ValueRef) (s : σ) :
    Alike k sites o (w.askLabels t ref s).2 (w'.askLabels t ref s).2 := by
  unfold Work.askLabels
  dsimp only
  split
  · exact h.report _ _ _ _ _ _
  · exact h

theorem modifyWidgets (h : Alike k sites o w w') {f : Widget → Widget}
    (hlearns : ∀ e : Widget, e.Learns (f e))
    (hf : ∀ (e : Widget) id guid,
      f (e.copyAs id guid k.handle) = (f e).copyAs id guid k.handle) (hs : List Nat) :
    Alike k sites o (w.modifyWidgets hs f) (w'.modifyWidgets (hs.map k.handle) f) := by
  rw [modifyWidgets_eq, modifyWidgets_eq]
  induction hs generalizing w w' with
  | nil => exact h
  | cons x hs ih => exact ih (h.modifyWidget x hlearns hf)

theorem attachEach (h : Alike k sites o w w') (parent : Nat) (children : List Nat) :
    Alike k sites o (children.foldl (fun w c => w.attach parent c) w)
      ((children.map k.handle).foldl (fun w c => w.attach (k.handle parent) c) w') := by
  induction children generalizing w w' with
  | nil => exact h
  | cons c children ih => exact ih (h.attach parent c)

theorem attachAll (h : Alike k sites o w w') (parents children : List Nat) :
    Alike k sites o (w.attachAll parents children)
      (w'.attachAll (parents.map k.handle) (children.map k.handle)) := by
  rw [attachAll_eq, attachAll_eq]
  induction parents generalizing w w' with
  | nil => exact h
  | cons p parents ih => exact ih (h.attachEach p children)

theorem kindOf (h : Alike k sites o w w') (className : String) :
    w'.kindOf className = w.kindOf className := by
  unfold Work.kindOf
  rw [h.toAssembler.settings]

theorem containerArg (h : Alike k sites o w w') (t : Task σ) (s : σ) (params : List String) :
    w'.containerArg t s params = (w.containerArg t s params).map k.handle := by
  unfold Work.containerArg
  split
  · exact h.bound _
  · rfl

/-- The widget for a place, found or made. -/
theorem mergedOr (h : Alike k sites o w w') (key : MergeKey σ) (hkey : key.site ∈ sites)
    {create : Work σ → Nat × Work σ}
    (hcreate : w.merged.get? key = none → (create w').1 = k.handle (create w).1 ∧
      Alike k sites o
        { (create w).2 with merged := (create w).2.merged.insert key (create w).1 }
        { (create w').2 with merged := (create w').2.merged.insert key (create w').1 }) :
    (w'.mergedOr key create).1 = k.handle (w.mergedOr key create).1 ∧
      Alike k sites o (w.mergedOr key create).2 (w'.mergedOr key create).2 := by
  have hmerged := h.toAssembler.merged key hkey
  unfold Work.mergedOr
  cases hget : w.merged.get? key with
  | some x =>
      rw [hget] at hmerged
      rw [hmerged]
      exact ⟨rfl, h⟩
  | none =>
      rw [hget] at hmerged
      rw [hmerged]
      exact hcreate hget

theorem mergedOr_lookup (h : Alike k sites o w w') {s : σ} (hs : s ∈ sites) (id : Int32)
    (className : String) :
    let create : Work σ → Nat × Work σ := fun w => w.createWidget id className (w.kindOf className)
    (w'.mergedOr (.lookup s id) create).1 = k.handle (w.mergedOr (.lookup s id) create).1 ∧
      Alike k sites o (w.mergedOr (.lookup s id) create).2
        (w'.mergedOr (.lookup s id) create).2 := by
  intro create
  refine h.mergedOr (.lookup s id) hs fun hnew => ?_
  dsimp only [create]
  rw [h.kindOf, ← kindOf_bare]
  exact ⟨h.toAssembler.scene.handle_size.symm,
    h.createMerged (.lookup s id) hs hnew className (WidgetKind.children_bare _) (Or.inl rfl)⟩

theorem mergedOr_allocation (h : Alike k sites o w w') {s : σ} (hs : s ∈ sites)
    (className : String) {kind : Work σ → WidgetKind} (hkind : (kind w).bare = kind w)
    (hsame : kind w' = kind w) :
    let create : Work σ → Nat × Work σ := fun w => w.createDynamic className (kind w)
    (w'.mergedOr (.allocation s) create).1 = k.handle (w.mergedOr (.allocation s) create).1 ∧
      Alike k sites o (w.mergedOr (.allocation s) create).2
        (w'.mergedOr (.allocation s) create).2 := by
  intro create
  refine h.mergedOr (.allocation s) hs fun hnew => ?_
  dsimp only [create]
  rw [hsame, ← hkind]
  exact ⟨h.toAssembler.scene.handle_size.symm,
    h.drawId.createMerged (.allocation s) hs hnew className (WidgetKind.children_bare _)
      (Or.inr ⟨⟨s, rfl⟩, h.toAssembler.dynamic⟩)⟩

end Alike

/-! ## Steps with a hand -/

namespace Twin

variable {k : Renaming} {old : Scene} {H : Set Nat} {w w' : Work σ}

/-- Work that stays alike, with the reach of its moves. -/
theorem go (h : Twin k t sites old H w w') {H₂ : Set Nat} {w₂ w₂' : Work σ}
    (hmoves : Moves t sites (H, w) (H₂, w₂)) (halike : Alike k sites t.origin w₂ w₂') :
    Twin k t sites old H₂ w₂ w₂' :=
  ⟨hmoves.within (fun _ hs => hs) rfl h.within, hmoves.bounded h.bounded, h.closed, halike⟩

theorem grasp (h : Twin k t sites old H w w') {H₂ : Set Nat}
    (hH : ∀ x ∈ H₂, Graspable t sites H w x) : Twin k t sites old H₂ w w' :=
  h.go (moves_grasp hH) h.alike

theorem drop (h : Twin k t sites old H w w') {H₂ : Set Nat} (hH : H₂ ⊆ H) :
    Twin k t sites old H₂ w w' :=
  h.go (moves_drop w hH) h.alike

theorem release (h : Twin k t sites old H w w') : Twin k t sites old ∅ w w' :=
  h.drop (Set.empty_subset H)

theorem takeBound (h : Twin k t sites old H w w') (name : Option String) :
    Twin k t sites old (H ∪ {x | x ∈ w.bound name}) w w' :=
  h.go (moves_bound w name) h.alike

theorem askInts (h : Twin k t sites old H w w') (ref : ValueRef) (s : σ) :
    Twin k t sites old H (w.askInts t ref s).2 (w'.askInts t ref s).2 :=
  h.go (moves_askInts w ref s) (h.alike.askInts t ref s)

theorem askLabels (h : Twin k t sites old H w w') (ref : ValueRef) (s : σ) :
    Twin k t sites old H (w.askLabels t ref s).2 (w'.askLabels t ref s).2 :=
  h.go (moves_askLabels w ref s) (h.alike.askLabels t ref s)

theorem askIntsAt (h : Twin k t sites old H w w') (position : Option Nat) (s : σ) :
    (w'.askIntsAt t position s).1 = (w.askIntsAt t position s).1 ∧
      Twin k t sites old H (w.askIntsAt t position s).2 (w'.askIntsAt t position s).2 := by
  cases position with
  | none => exact ⟨rfl, h⟩
  | some i => exact ⟨(fst_askInts ..).trans (fst_askInts ..).symm, h.askInts (.arg i) s⟩

theorem askLabelsAt (h : Twin k t sites old H w w') (position : Option Nat) (s : σ) :
    (w'.askLabelsAt t position s).1 = (w.askLabelsAt t position s).1 ∧
      Twin k t sites old H (w.askLabelsAt t position s).2 (w'.askLabelsAt t position s).2 := by
  cases position with
  | none => exact ⟨rfl, h⟩
  | some i => exact ⟨(fst_askLabels ..).trans (fst_askLabels ..).symm, h.askLabels (.arg i) s⟩

theorem bindLocal (h : Twin k t sites old H w w') (name : Option String) {hs : List Nat}
    (hhs : ∀ x ∈ hs, x ∈ H) :
    Twin k t sites old H (w.bindLocal name hs) (w'.bindLocal name (hs.map k.handle)) :=
  h.go (moves_bindLocal w name hhs) (h.alike.bindLocal name hs)

theorem addRoots (h : Twin k t sites old H w w') {hs : List Nat} (hhs : ∀ x ∈ hs, x ∈ H) :
    Twin k t sites old H (w.addRoots t.origin hs) (w'.addRoots t.origin (hs.map k.handle)) :=
  h.go (moves_addRoots w hhs) (h.alike.addRoots hs)

theorem nameAfter (h : Twin k t sites old H w w') {x : Nat} (hx : x ∈ H) (name : Option String) :
    Twin k t sites old H (w.nameAfter x name) (w'.nameAfter (k.handle x) name) :=
  h.go (moves_nameAfter w name hx) (h.alike.nameAfter x name)

theorem attachAll (h : Twin k t sites old H w w') {parents children : List Nat}
    (hparents : ∀ p ∈ parents, p ∈ H) (hchildren : ∀ c ∈ children, c ∈ H) :
    Twin k t sites old H (w.attachAll parents children)
      (w'.attachAll (parents.map k.handle) (children.map k.handle)) :=
  h.go (moves_attachAll w hparents hchildren) (h.alike.attachAll parents children)

theorem tag (h : Twin k t sites old H w w') {x : Nat} (hx : x ∈ H) :
    Twin k t sites old H (w.tag t.origin x) (w'.tag t.origin (k.handle x)) :=
  h.go (.single (.tag hx)) (h.alike.tag (h.within.held x hx) (h.bounded.held x hx))

/-! ### Loops -/

theorem foldl {α β : Type} (f : α → β) (step : Work σ → α → Work σ)
    (step' : Work σ → β → Work σ) :
    ∀ (as : List α), (∀ a ∈ as, ∀ {w w' : Work σ}, Twin k t sites old H w w' →
        Twin k t sites old H (step w a) (step' w' (f a))) →
      ∀ {w w' : Work σ}, Twin k t sites old H w w' →
        Twin k t sites old H (as.foldl step w) ((as.map f).foldl step' w')
  | [], _, _, _, h => h
  | a :: as, hstep, _, _, h =>
      foldl f step step' as (fun b hb => hstep b (List.mem_cons_of_mem a hb))
        (hstep a List.mem_cons_self h)

/-- A loop that collects one handle in each turn. What a turn needs of the
state is `Q`, what it needs in hand is `K`. -/
theorem collect {α : Type} (step step' : Work σ → α → Nat × Work σ) (Q : Work σ → Prop)
    (K : Set Nat) :
    ∀ (as : List α), (∀ a ∈ as, ∀ {H : Set Nat} {w w' : Work σ}, K ⊆ H → Q w →
        Twin k t sites old H w w' → Q (step w a).2 ∧ (step' w' a).1 = k.handle (step w a).1 ∧
          Twin k t sites old (insert (step w a).1 H) (step w a).2 (step' w' a).2) →
      ∀ {H : Set Nat} {w w' : Work σ}, K ⊆ H → Q w → Twin k t sites old H w w' →
        (Work.collect step' as w').1 = (Work.collect step as w).1.map k.handle ∧
          Twin k t sites old (H ∪ {x | x ∈ (Work.collect step as w).1})
            (Work.collect step as w).2 (Work.collect step' as w').2
  | [], _, _, _, _, _, _, h => ⟨rfl, h.drop (by simp [Work.collect_nil])⟩
  | a :: as, hstep, H, w, w', hK, hQ, h => by
      obtain ⟨hQ', hfirst, hnext⟩ := hstep a List.mem_cons_self hK hQ h
      obtain ⟨hrest, hdone⟩ := collect step step' Q K as
        (fun b hb => hstep b (List.mem_cons_of_mem a hb))
        (hK.trans (Set.subset_insert _ _)) hQ' hnext
      refine ⟨congrArg₂ List.cons hfirst hrest, hdone.drop ?_⟩
      rintro x (hx | hx)
      · exact Or.inl (Or.inr hx)
      · rcases List.mem_cons.mp hx with rfl | hx
        · exact Or.inl (Or.inl rfl)
        · exact Or.inr hx

theorem collectAll {α : Type} (step : Work σ → α → List Nat × Work σ)
    (hstep : ∀ a {H : Set Nat} {w w' : Work σ}, Twin k t sites old H w w' →
      (step w' a).1 = (step w a).1.map k.handle ∧
        Twin k t sites old (H ∪ {x | x ∈ (step w a).1}) (step w a).2 (step w' a).2) :
    ∀ (as : List α) {H : Set Nat} {w w' : Work σ}, Twin k t sites old H w w' →
      (Work.collectAll step as w').1 = (Work.collectAll step as w).1.map k.handle ∧
        Twin k t sites old (H ∪ {x | x ∈ (Work.collectAll step as w).1})
          (Work.collectAll step as w).2 (Work.collectAll step as w').2
  | [], _, _, _, h => ⟨rfl, h.drop (by simp [Work.collectAll_nil])⟩
  | a :: as, H, w, w', h => by
      obtain ⟨hfirst, hnext⟩ := hstep a h
      obtain ⟨hrest, hdone⟩ := collectAll step hstep as hnext
      refine ⟨?_, hdone.drop ?_⟩
      · show (step w' a).1 ++ (Work.collectAll step as (step w' a).2).1 =
          ((step w a).1 ++ (Work.collectAll step as (step w a).2).1).map k.handle
        rw [hfirst, hrest, List.map_append]
      · rintro x (hx | hx)
        · exact Or.inl (Or.inl hx)
        · rcases List.mem_append.mp hx with hx | hx
          · exact Or.inl (Or.inr hx)
          · exact Or.inr hx

theorem tagTree (h : Twin k t sites old H w w') {x : Nat} (hx : x ∈ H) :
    Twin k t sites old H (w.tagTree t.origin x) (w'.tagTree t.origin (k.handle x)) := by
  have htree : Twin k t sites old (H ∪ {y | y ∈ w.scene.depthFirst x}) w w' := by
    refine h.grasp fun y hy => ?_
    rcases hy with hy | hy
    · exact .held hy
    · exact (Graspable.held hx).reaches (Scene.reaches_of_mem_depthFirst hy)
  rw [Work.tagTree_eq, Work.tagTree_eq, h.alike.toAssembler.scene.depthFirst]
  exact (foldl k.handle _ _ _ (fun y hy _ _ hw => hw.tag (x := y) (Or.inr hy)) htree).drop
    Set.subset_union_left

/-! ### Layouts -/

/-- The templates stay closed. -/
theorem lt_of_reaches (h : Twin k t sites old H w w') {x y : Nat} (hx : x < k.base)
    (hy : w.scene.Reaches x y) : y < k.base := by
  induction hy with
  | refl => exact hx
  | @tail y c _ hc ih =>
      have hsame := h.within.toAssembler.scene.children_eq (Nat.not_le_of_lt ih)
      exact h.closed y ih c (hsame ▸ hc)

theorem copyRoot (h : Twin k t sites old H w w') {id : Int32} {layout : Layout} {x : Nat}
    (hlayout : w.layouts.get? id = some layout) (hx : x ∈ layout.roots) :
    (w'.copyRoot x).1 = k.handle (w.copyRoot x).1 ∧
      Twin k t sites old (insert (w.copyRoot x).1 H) (w.copyRoot x).2 (w'.copyRoot x).2 := by
  have hlow : x < k.base := h.alike.toAssembler.templates id layout hlayout x hx
  refine ⟨h.alike.toAssembler.scene.handle_size.symm,
    h.go (.single (.copy hlayout hx)) (h.alike.copyRoot hlow fun y hy => ?_)⟩
  -- What a template holds was not constructed by code, so its ids are kept.
  rintro ⟨s, hs, hget⟩
  have hbase : k.base ≤ y := h.within.toAssembler.merged (.allocation s) y hs hget
  exact Nat.not_lt_of_le hbase (h.lt_of_reaches hlow hy)

theorem materialize (h : Twin k t sites old H w w') (layoutId : Int64) :
    (Work.materialize t.origin w' layoutId).1 =
        (Work.materialize t.origin w layoutId).1.map k.handle ∧
      Twin k t sites old (H ∪ {x | x ∈ (Work.materialize t.origin w layoutId).1})
        (Work.materialize t.origin w layoutId).2 (Work.materialize t.origin w' layoutId).2 := by
  rw [Work.materialize_eq, Work.materialize_eq, h.alike.toAssembler.layouts]
  cases hget : (word32? layoutId).bind w.layouts.get? with
  | none =>
      refine ⟨rfl, Twin.drop (H := H) ?_ (by simp)⟩
      exact h.go (moves_note w _) (h.alike.report _ _ _ _ _ _)
  | some layout =>
      obtain ⟨id, -, hid⟩ := Option.bind_eq_some_iff.mp hget
      obtain ⟨hcopies, hcopied⟩ := collect (k := k) Work.copyRoot Work.copyRoot
        (fun w => w.layouts.get? id = some layout) ∅ layout.roots
        (fun x hx _ _ _ _ hQ hw => ⟨hQ, hw.copyRoot hQ hx⟩) (Set.empty_subset H) hid h
      refine ⟨hcopies, ?_⟩
      -- All roots are copied before the first copy is tagged.
      show Twin k t sites old _ _ (List.foldl _ _ (Work.collect Work.copyRoot layout.roots w').1)
      rw [hcopies]
      exact foldl k.handle _ _ _ (fun c hc _ _ hw => hw.tagTree (x := c) (Or.inr hc)) hcopied

end Twin

/-! ## Actions -/

namespace Twin

variable {k : Renaming} {old : Scene} {H : Set Nat} {w w' : Work σ} {s : σ}

theorem lookupOne (h : Twin k t sites old H w w') (hs : s ∈ sites) (className : String)
    {containers : List Nat} (hcontainers : ∀ c ∈ containers, c ∈ H) {id : Int32}
    (hid : k.top < id) :
    let r := Work.lookupOne t s className containers w id
    let r' := Work.lookupOne t s className (containers.map k.handle) w' id
    r'.1 = k.handle r.1 ∧ Twin k t sites old (insert r.1 H) r.2 r'.2 := by
  have hfinish : ∀ r r' : Nat × Work σ, r'.1 = k.handle r.1 →
      Twin k t sites old (insert r.1 H) r.2 r'.2 →
      r'.1 = k.handle r.1 ∧ Twin k t sites old (insert r.1 H)
        ((r.2.nameAfter r.1 (t.query.definedLocal s)).tag t.origin r.1)
        ((r'.2.nameAfter r'.1 (t.query.definedLocal s)).tag t.origin r'.1) := by
    intro r r' hr hw
    rw [hr]
    exact ⟨rfl, (hw.nameAfter (Set.mem_insert _ _) _).tag (Set.mem_insert _ _)⟩
  rw [Work.lookupOne_eq, Work.lookupOne_eq, h.alike.toAssembler.scene.findSome? hid]
  cases hfind : containers.findSome? fun c => w.scene.find? c id with
  | some x =>
      exact hfinish (x, w) (k.handle x, w') rfl (h.go (moves_find hcontainers hfind) h.alike)
  | none =>
      obtain ⟨hhandle, halike⟩ := h.alike.mergedOr_lookup hs id className
      exact hfinish _ _ hhandle (h.go (moves_mergedOr_lookup w id className hs) halike)

theorem lookup (h : Twin k t sites old ∅ w w') (ht : t.IdsAbove k.top) (hs : s ∈ sites) (call : σ)
    (className : String) :
    Twin k t sites old ∅ (w.lookup t s call className) (w'.lookup t s call className) := by
  let containers := (w.askInts t (.arg 0) call).2.bound (t.query.receiver call)
  have hasked := (h.askInts (.arg 0) call).takeBound (t.query.receiver call)
  have hcontainers : (w'.askInts t (.arg 0) call).2.bound (t.query.receiver call) =
      containers.map k.handle := hasked.alike.bound _
  obtain ⟨hhs, hdone⟩ := collect (Work.lookupOne t s className containers)
    (Work.lookupOne t s className (containers.map k.handle)) (fun _ => True)
    {x | x ∈ containers} (lookupIds (t.oracle (.arg 0) call).ints)
    (fun id hid _ _ _ hK _ hw => ⟨trivial, hw.lookupOne hs className (fun c hc => hK hc)
      (ht.lookupIds _ _ id hid)⟩) Set.subset_union_right trivial hasked
  rw [Work.lookup_eq, Work.lookup_eq]
  dsimp only
  rw [fst_askInts, fst_askInts, hcontainers, hhs]
  exact ((hdone.bindLocal _ fun x hx => Or.inr hx).bindLocal _ fun x hx => Or.inr hx).release

/-- A widget for a place of construction, named and tagged. -/
theorem allocation (h : Twin k t sites old H w w') (hs : s ∈ sites) (className : String)
    (kind : Work σ → WidgetKind) (hkind : (kind w).bare = kind w) (hsame : kind w' = kind w)
    (name : Option String) :
    let r := w.mergedOr (.allocation s) fun w => w.createDynamic className (kind w)
    let r' := w'.mergedOr (.allocation s) fun w => w.createDynamic className (kind w)
    r'.1 = k.handle r.1 ∧ Twin k t sites old (insert r.1 H)
      ((r.2.nameAfter r.1 name).tag t.origin r.1)
      ((r'.2.nameAfter r'.1 name).tag t.origin r'.1) := by
  intro r r'
  obtain ⟨hhandle, halike⟩ := h.alike.mergedOr_allocation hs className hkind hsame
  have hmade : Twin k t sites old (insert r.1 H) r.2 r'.2 :=
    h.go (moves_mergedOr_allocation w className kind hkind hs) halike
  refine ⟨hhandle, ?_⟩
  rw [show r'.1 = k.handle r.1 from hhandle]
  exact (hmade.nameAfter (Set.mem_insert _ _) name).tag (Set.mem_insert _ _)

theorem bindOne (h : Twin k t sites old H w w') (name : Option String) {x : Nat} (hx : x ∈ H) :
    Twin k t sites old H (w.bindLocal name [x]) (w'.bindLocal name [k.handle x]) :=
  h.bindLocal name fun _ hy => List.mem_singleton.mp hy ▸ hx

theorem allocate (h : Twin k t sites old ∅ w w') (hs : s ∈ sites) (className : String) :
    Twin k t sites old ∅ (w.allocate t s className) (w'.allocate t s className) := by
  have hmoves : Moves t sites (∅, w) (∅, w.allocate t s className) := moves_allocate w className hs
  refine h.go hmoves ?_
  rw [Work.allocate_eq, Work.allocate_eq, h.alike.toAssembler.settings, h.alike.length_drafts]
  dsimp only
  split
  · exact h.alike.addDraft.bindDraft _ _
  · split
    · obtain ⟨hhandle, hmade⟩ := h.allocation hs className (fun w => w.kindOf className)
        (kindOf_bare w className) (h.alike.kindOf className) (t.query.definedLocal s)
      have hbound := (hmade.bindOne (t.query.definedLocal s) (Set.mem_insert _ _)).alike
      rwa [← hhandle] at hbound
    · exact h.alike.unbindLocal _

theorem listView (h : Twin k t sites old ∅ w w') (hs : s ∈ sites) :
    Twin k t sites old ∅ (w.listView t s) (w'.listView t s) := by
  obtain ⟨hhandle, hmade⟩ := h.allocation hs Toolkit.listClass (fun _ => .group []) rfl rfl none
  have hbound := (hmade.bindOne (t.query.definedLocal s) (Set.mem_insert _ _)).release
  rwa [← hhandle] at hbound

theorem adapterRow (h : Twin k t sites old ∅ w w') (hs : s ∈ sites) (signature : String) :
    Twin k t sites old ∅ (w.adapterRow t s signature) (w'.adapterRow t s signature) := by
  obtain ⟨hhandle, hmade⟩ := h.allocation hs Toolkit.viewClass (fun _ => .view) rfl rfl none
  have hrow := hmade.go (moves_containerArg _ s (Signature.callParams signature)) hmade.alike
  have hheld := hrow.attachAll (fun p hp => Or.inr hp) fun c hc =>
    List.mem_singleton.mp hc ▸ Or.inl (Set.mem_insert _ _)
  have hbound := (hheld.bindOne (t.query.definedLocal s) (Or.inl (Set.mem_insert _ _))).release
  rw [← hmade.alike.containerArg, List.map_singleton, ← hhandle] at hbound
  exact hbound

theorem inflate (h : Twin k t sites old ∅ w w') (s : σ) (signature : String) :
    Twin k t sites old ∅ (w.inflate t s signature) (w'.inflate t s signature) := by
  rw [Work.inflate_eq, Work.inflate_eq]
  dsimp only
  split
  · exact h
  · rename_i i _
    have hparents := h.go (moves_containerArg w s (Signature.callParams signature)) h.alike
    obtain ⟨hhs, hmade⟩ := collectAll (Work.materialize t.origin)
      (fun id _ _ _ hw => hw.materialize id) (t.oracle (.arg i) s).ints
      (hparents.askInts (.arg i) s)
    rw [h.alike.containerArg, fst_askInts, fst_askInts, hhs]
    split
    · have hattached := hmade.attachAll (fun p hp => Or.inl (Or.inr hp)) fun c hc => Or.inr hc
      exact (hattached.bindLocal _ fun x hx => Or.inr hx).release
    · exact (hmade.bindLocal _ fun x hx => Or.inr hx).release

theorem showLayout (h : Twin k t sites old ∅ w w') (s : σ) :
    Twin k t sites old ∅ (w.showLayout t s) (w'.showLayout t s) := by
  obtain ⟨hhs, hmade⟩ := collectAll (Work.materialize t.origin)
    (fun id _ _ _ hw => hw.materialize id) (t.oracle (.arg 0) s).ints (h.askInts (.arg 0) s)
  rw [Work.showLayout_eq, Work.showLayout_eq]
  dsimp only
  rw [fst_askInts, fst_askInts, hhs]
  exact ((hmade.addRoots fun x hx => Or.inr hx).bindLocal _ fun x hx => Or.inr hx).release

theorem showWidget (h : Twin k t sites old ∅ w w') (s : σ) :
    Twin k t sites old ∅ (w.showWidget t s) (w'.showWidget t s) := by
  have hheld := h.takeBound (t.query.argLocal s 0)
  have htagged := foldl k.handle (fun w x => w.tagTree t.origin x)
    (fun w x => w.tagTree t.origin x) _ (fun x hx _ _ hw => hw.tagTree (x := x) (Or.inr hx))
    hheld
  rw [Work.showWidget_eq, Work.showWidget_eq]
  dsimp only
  rw [h.alike.bound]
  exact ((htagged.addRoots fun x hx => Or.inr hx).bindLocal _ fun x hx => Or.inr hx).release

/-! ### Fragments -/

theorem slotContainers (h : Twin k t sites old H w w') {ids : List Int64}
    (hids : ∀ id ∈ ids.filterMap word32?, k.top < id) :
    w'.slotContainers t ids = (w.slotContainers t ids).map k.handle := by
  rw [Work.slotContainers_eq, Work.slotContainers_eq, h.alike.toAssembler.screens,
    List.map_flatMap]
  refine List.flatMap_congr fun id hid => ?_
  rw [List.filterMap_map, List.map_filterMap]
  refine List.filterMap_congr fun x _ => ?_
  exact h.alike.toAssembler.scene.find? x (hids id hid)

theorem addFragment (h : Twin k t sites old H w w') (tag : String) {containers : List Nat}
    (hcontainers : ∀ c ∈ containers, c ∈ H) (className : String) :
    Twin k t sites old H (Work.addFragment t tag containers w className)
      (Work.addFragment t tag (containers.map k.handle) w' className) := by
  refine h.go (moves_addFragment tag w className hcontainers) ?_
  have hmade : Twin k t sites old (insert w.scene.size H)
      (w.createWidget Widget.missingId className (.fragment [] .transaction tag)).2
      (w'.createWidget Widget.missingId className (.fragment [] .transaction tag)).2 :=
    h.go (.single (.slot className tag)) (h.alike.createWidget _ className rfl)
  have htagged := hmade.tag (Set.mem_insert _ _)
  have hattached := htagged.alike.attachAll containers [w.scene.size]
  rw [List.map_singleton, h.alike.toAssembler.scene.handle_size] at hattached
  exact hattached

theorem addFragments (h : Twin k t sites old ∅ w w') (tag : String) {ids : List Int64}
    (hids : ∀ id ∈ ids.filterMap word32?, k.top < id) (classes : List String) :
    Twin k t sites old ∅ (classes.foldl (Work.addFragment t tag (w.slotContainers t ids)) w)
      (classes.foldl (Work.addFragment t tag (w'.slotContainers t ids)) w') := by
  have hheld : Twin k t sites old {c | c ∈ w.slotContainers t ids} w w' :=
    h.grasp fun c hc => graspable_slotContainers hc
  have hloop := foldl id (Work.addFragment t tag (w.slotContainers t ids))
    (Work.addFragment t tag ((w.slotContainers t ids).map k.handle)) classes
    (fun className _ _ _ hw => hw.addFragment tag (fun c hc => hc) className) hheld
  rw [List.map_id] at hloop
  rw [h.slotContainers hids]
  exact hloop.release

theorem fragment (h : Twin k t sites old ∅ w w') (ht : t.IdsAbove k.top) (s : σ)
    (signature : String) :
    Twin k t sites old ∅ (w.fragment t s signature) (w'.fragment t s signature) := by
  rw [Work.fragment_eq, Work.fragment_eq]
  dsimp only
  split
  · exact h
  · rename_i i _
    obtain ⟨htags, hasked⟩ := (h.askLabels (.arg i) s).askLabelsAt
      ((Signature.callParams signature).idxOf? Toolkit.stringParam) s
    let slot := if (Signature.callParams signature).head? = some Toolkit.intParam then some 0
      else none
    obtain ⟨hids, hready⟩ := hasked.askIntsAt slot s
    rw [fst_askLabels, fst_askLabels, htags, hids]
    exact hready.addFragments _ (ht.askIntsAt _ slot s) _

end Twin

/-! ### Menus, dialogs and setters -/

namespace Alike

variable {k : Renaming} {w w' : Work σ}

theorem showMenu (h : Alike k sites t.origin w w') (type : MenuType) (id : Int64) :
    Alike k sites t.origin (Work.showMenu t type w id) (Work.showMenu t type w' id) := by
  have hfound : (word32? id).bind w'.menuTemplates.get? =
      (word32? id).bind w.menuTemplates.get? := by
    rw [h.toAssembler.menuTemplates]
  unfold Work.showMenu
  rw [hfound]
  cases (word32? id).bind w.menuTemplates.get? with
  | none => exact h.report _ _ _ _ _ _
  | some template => exact h.addMenu template type type.listener?

theorem inflateMenu (h : Alike k sites t.origin w w') (s : σ) :
    Alike k sites t.origin (w.inflateMenu t s) (w'.inflateMenu t s) := by
  have hloop : ∀ (type : MenuType) (ids : List Int64) {w w' : Work σ},
      Alike k sites t.origin w w' → Alike k sites t.origin
        (ids.foldl (Work.showMenu t type) w) (ids.foldl (Work.showMenu t type) w') := by
    intro type ids
    induction ids with
    | nil => exact fun h => h
    | cons id ids ih => exact fun h => ih (h.showMenu type id)
  unfold Work.inflateMenu
  dsimp only
  rw [fst_askInts, fst_askInts]
  exact hloop _ _ (h.askInts t (.arg 0) s)

theorem describe (h : Alike k sites t.origin w w') (s : σ) (draft : Nat) {f : Dialog → Dialog}
    (hf : ∀ d d' : Dialog, d'.unnamed = d.unnamed → (f d').unnamed = (f d).unnamed) :
    Alike k sites t.origin ((w.askLabels t (.arg 0) s).2.modifyDraft draft f)
      ((w'.askLabels t (.arg 0) s).2.modifyDraft draft f) :=
  (h.askLabels t (.arg 0) s).modifyDraft draft hf

theorem addButton (h : Alike k sites t.origin w w') (draft : Nat) {b b' : Button}
    (hb : b'.unnamed = b.unnamed) :
    Alike k sites t.origin
      (({ w with scene := w.scene.advanceMint 1 }).modifyDraft draft fun d =>
        { d with buttons := d.buttons ++ [b] })
      (({ w' with scene := w'.scene.advanceMint 1 }).modifyDraft draft fun d =>
        { d with buttons := d.buttons ++ [b'] }) := by
  have hunnamed : ∀ (d : Dialog) (b : Button),
      Dialog.unnamed { d with buttons := d.buttons ++ [b] } =
        { d.unnamed with buttons := d.unnamed.buttons ++ [b.unnamed] } := by
    intro d b
    simp [Dialog.unnamed]
  refine (h.rescene (h.toAssembler.scene.advanceMint 1)).modifyDraft draft fun d d' hd => ?_
  rw [hunnamed, hunnamed, hd, hb]

theorem dialogCall (h : Alike k sites t.origin w w') (s : σ) (signature : String) (draft : Nat) :
    Alike k sites t.origin (w.dialogCall t s signature draft)
      (w'.dialogCall t s signature draft) := by
  let labels := (t.oracle (.arg 0) s).labels
  unfold Work.dialogCall
  dsimp only
  simp only [fst_askLabels]
  refine Alike.bindDraft ?_ _ draft
  split
  · exact h.describe s draft fun d d' hd =>
      congrArg (fun d : Dialog => { d with titles := d.titles.insertAll labels }) hd
  split
  · exact h.describe s draft fun d d' hd =>
      congrArg (fun d : Dialog => { d with messages := d.messages.insertAll labels }) hd
  split
  · exact h.describe s draft fun d d' hd =>
      congrArg (fun d : Dialog => { d with icons := d.icons.insertAll labels }) hd
  split
  · split
    · exact h
    · rename_i role _
      exact ((h.askLabels t (.arg 0) s).askLabels t (.arg 1) s).addButton draft rfl
  · exact h

theorem setterTargets (h : Alike k sites t.origin w w') (s : σ) :
    w'.setterTargets t s = (w.setterTargets t s).map k.handle := by
  rw [Work.setterTargets_eq, Work.setterTargets_eq, h.bound, List.filter_map,
    h.toAssembler.settings]
  refine congrArg (List.map k.handle) (List.filter_congr fun x _ => ?_)
  rw [Function.comp_apply, h.toAssembler.scene.className_widget]

theorem setterCall (h : Alike k sites t.origin w w') (s : σ) (signature : String) :
    Alike k sites t.origin (w.setterCall t s signature) (w'.setterCall t s signature) := by
  have hfold : ∀ {α : Type} (f : Widget → α → Widget) (as : List α),
      (∀ e a, Widget.Learns e (f e a)) →
      (∀ (e : Widget) (a : α) id guid,
        f (e.copyAs id guid k.handle) a = (f e a).copyAs id guid k.handle) →
      ∀ {w w' : Work σ}, Alike k sites t.origin w w' → ∀ targets : List Nat,
      Alike k sites t.origin (w.modifyWidgets targets fun e => as.foldl f e)
        (w'.modifyWidgets (targets.map k.handle) fun e => as.foldl f e) := by
    intro α f as hlearns hf w w' h targets
    exact h.modifyWidgets (foldl_related fun a _ e => hlearns e a)
      (fun e id guid => Widget.foldl_copyAs id guid k.handle (fun e a => hf e a id guid) as e)
      targets
  rw [Work.setterCall_eq, Work.setterCall_eq]
  dsimp only
  rw [h.setterTargets, List.isEmpty_map]
  split
  · exact h
  · split
    · exact h
    · simp only [fst_askLabels]
      exact hfold (fun e v => e.addText (Attr.dynamic _ v)) _
        (fun e v => Widget.learns_addText e _)
        (fun e v id guid => Widget.addText_copyAs e id guid k.handle _)
        (h.askLabels t (.arg 0) s) _
    · simp only [fst_askLabels]
      exact hfold _ _ Widget.learns_addListener
        (fun e v id guid => Widget.addListener_copyAs e id guid k.handle v)
        (h.askLabels t (.arg 0) s) _
    · simp only [fst_askInts]
      exact hfold _ _ Widget.learns_addMask
        (fun e v id guid => Widget.addMask_copyAs e id guid k.handle v)
        (h.askInts t (.arg 0) s) _
    · simp only [fst_askLabels]
      exact hfold _ _ Widget.learns_addImage
        (fun e v id guid => Widget.addImage_copyAs e id guid k.handle v)
        (h.askLabels t (.arg 0) s) _

theorem call (h : Alike k sites t.origin w w') (s : σ) (signature : String) :
    Alike k sites t.origin (w.call t s signature) (w'.call t s signature) := by
  have hdraft : w'.draftOf? (t.query.receiver s) = w.draftOf? (t.query.receiver s) := by
    unfold Work.draftOf?
    rw [h.draftLocals]
  rw [Work.call_eq, Work.call_eq, hdraft]
  split
  · exact h.dialogCall s signature _
  · exact h.setterCall s signature

theorem childAt (h : Alike k sites t.origin w w') (s call : σ) :
    Alike k sites t.origin (w.childAt t s call) (w'.childAt t s call) := by
  have hchildren : (w'.bound (t.query.receiver call)).flatMap w'.scene.children =
      ((w.bound (t.query.receiver call)).flatMap w.scene.children).map k.handle := by
    rw [h.bound, List.flatMap_map, List.map_flatMap]
    exact List.flatMap_congr fun x _ => h.toAssembler.scene.children x
  rw [Work.childAt_eq, Work.childAt_eq]
  dsimp only
  rw [hchildren]
  exact (h.bindLocal _ _).bindLocal _ _

theorem addView (h : Alike k sites t.origin w w') (s : σ) :
    Alike k sites t.origin (w.addView t s) (w'.addView t s) := by
  rw [Work.addView_eq, Work.addView_eq, h.bound, h.bound]
  exact h.attachAll _ _

theorem noteCall (h : Alike k sites t.origin w w') (s : σ) :
    Alike k sites t.origin (w.noteCall t s) (w'.noteCall t s) := by
  have htrack : w'.settings.trackCalls = w.settings.trackCalls := by
    rw [h.toAssembler.settings]
  unfold Work.noteCall
  rw [htrack]
  split
  · split
    · exact h.tagCall _
    · exact h
  · exact h

end Alike

/-! ## Runs -/

namespace Twin

variable {k : Renaming} {old : Scene} {w w' : Work σ}

theorem perform (h : Twin k t sites old ∅ w w') (ht : t.IdsAbove k.top) {s : σ} (hs : s ∈ sites)
    (a : Action σ) : Twin k t sites old ∅ (w.perform t s a) (w'.perform t s a) := by
  have hmoves : Moves t sites (∅, w) (∅, w.perform t s a) := moves_perform w hs a
  cases a with
  | await => exact h
  | lookup call className => exact h.lookup ht hs call className
  | childAt call => exact h.go hmoves (h.alike.childAt s call)
  | clear => exact h.go hmoves (h.alike.unbindLocal _)
  | allocate className => exact h.allocate hs className
  | inflate signature => exact h.inflate s signature
  | addView => exact h.go hmoves (h.alike.addView s)
  | adapterRow signature => exact h.adapterRow hs signature
  | listView => exact h.listView hs
  | showLayout => exact h.showLayout s
  | showWidget => exact h.showWidget s
  | inflateMenu => exact h.go hmoves (h.alike.inflateMenu s)
  | fragment signature => exact h.fragment ht s signature
  | call signature => exact h.go hmoves (h.alike.call s signature)
  | nothing => exact h

theorem step (h : Twin k t sites old ∅ w w') (ht : t.IdsAbove k.top) {s : σ} (hs : s ∈ sites) :
    (w'.step t s).2 = (w.step t s).2 ∧
      Twin k t sites old ∅ (w.step t s).1 (w'.step t s).1 := by
  have hnoted : Twin k t sites old ∅ (w.noteCall t s) (w'.noteCall t s) :=
    h.go (moves_noteCall w hs) (h.alike.noteCall s)
  rw [Work.step_eq, Work.step_eq]
  cases t.query.action s with
  | ok a => exact ⟨rfl, hnoted.perform ht hs a⟩
  | error e => exact ⟨rfl, hnoted⟩

/-- Runs in lockstep end alike, both well or both with the same failure. -/
theorem run : ∀ (rest : List σ), (∀ s ∈ rest, s ∈ sites) → t.IdsAbove k.top →
    ∀ {w w' : Work σ}, Twin k t sites old ∅ w w' →
      (Work.run t rest w').2 = (Work.run t rest w).2 ∧
        Twin k t sites old ∅ (Work.run t rest w).1 (Work.run t rest w').1
  | [], _, _, _, _, h => ⟨rfl, h⟩
  | s :: rest, hsub, ht, w, w', h => by
      obtain ⟨hfailure, hnext⟩ := h.step ht (hsub s List.mem_cons_self)
      have hrest := run rest (fun x hx => hsub x (List.mem_cons_of_mem s hx)) ht hnext
      rw [Work.run, Work.run]
      cases hleft : w.step t s with
      | mk w₂ failure =>
          cases hright : w'.step t s with
          | mk w₂' failure' =>
              rw [hleft, hright] at hfailure hnext hrest
              obtain rfl : failure' = failure := hfailure
              cases failure' with
              | none => exact hrest
              | some e => exact ⟨rfl, hnext⟩

end Twin

end Work

end UiRecovery
