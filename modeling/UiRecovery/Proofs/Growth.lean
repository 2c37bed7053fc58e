import UiRecovery.Proofs.Histories

/-!
# Nothing recovered is taken back

`Assembler.Grows a b` says that `b` has all that `a` has: every widget with
its identity and its evidence, every place in the code with its widget, and
in each list the old members first, in their old order. Each move makes an
assembler grow (`Move.grows`), both endings of a method do, and so do runs
of any length (`evidence_grows`). Nothing is assumed about the assembler or
about the answers of query and oracle.

A widget grows in two ways: it learns (`Widget.Learns`), and children are
put behind the ones that it has.
-/

namespace UiRecovery

/-! ## Maps to sets -/

namespace OrderedMap

variable {κ α : Type} [DecidableEq κ]

/-- `n` is `m` with further keys behind the old ones, and with further
members behind the old ones of each set. -/
structure Extends (m n : OrderedMap κ (OrderedSet α)) : Prop where
  keys : m.keys <+: n.keys
  members : ∀ k s, m.get? k = some s → ∃ t, n.get? k = some t ∧ s.toList <+: t.toList

namespace Extends

theorem refl (m : OrderedMap κ (OrderedSet α)) : Extends m m where
  keys := List.prefix_rfl
  members _ s hs := ⟨s, hs, List.prefix_rfl⟩

theorem trans {m n p : OrderedMap κ (OrderedSet α)} (h : Extends m n) (h' : Extends n p) :
    Extends m p where
  keys := h.keys.trans h'.keys
  members k s hs := by
    obtain ⟨t, ht, hst⟩ := h.members k s hs
    obtain ⟨u, hu, htu⟩ := h'.members k t ht
    exact ⟨u, hu, hst.trans htu⟩

end Extends

theorem extends_update (m : OrderedMap κ (OrderedSet α)) (k : κ)
    {f : Option (OrderedSet α) → OrderedSet α}
    (hf : ∀ s, s.toList <+: (f (some s)).toList) : m.Extends (m.update k f) where
  keys := by
    rw [keys_update]
    split
    · exact List.prefix_rfl
    · exact List.prefix_append ..
  members j s hs := by
    rw [get?_update]
    split
    · rename_i hjk
      subst hjk
      rw [hs]
      exact ⟨_, rfl, hf s⟩
    · exact ⟨s, hs, List.prefix_rfl⟩

theorem extends_tag (m : OrderedMap κ (OrderedSet Origin)) (k : κ) (o : Origin) :
    m.Extends (m.tag k o) :=
  m.extends_update k fun s => OrderedSet.prefix_insert s o

end OrderedMap

/-! ## Widgets -/

/-- The same kind of widget, with further children or masks behind the old
ones. -/
inductive WidgetKind.Grows : WidgetKind → WidgetKind → Prop
  | view : Grows .view .view
  | group {cs cs' : List Nat} (hcs : cs <+: cs') : Grows (.group cs) (.group cs')
  | text {ms ms' : OrderedSet Int32} (hms : ms.toList <+: ms'.toList) :
      Grows (.text ms) (.text ms')
  | fragment {cs cs' : List Nat} (source : FragmentSource) (tag : String) (hcs : cs <+: cs') :
      Grows (.fragment cs source tag) (.fragment cs' source tag)

namespace WidgetKind

theorem Grows.refl (k : WidgetKind) : Grows k k := by
  cases k with
  | view => exact .view
  | group cs => exact .group List.prefix_rfl
  | text ms => exact .text List.prefix_rfl
  | fragment cs source tag => exact .fragment source tag List.prefix_rfl

theorem Grows.trans {k k' k'' : WidgetKind} (h : Grows k k') (h' : Grows k' k'') :
    Grows k k'' := by
  cases h with
  | view => exact h'
  | group hcs =>
      cases h' with
      | group hcs' => exact .group (hcs.trans hcs')
  | text hms =>
      cases h' with
      | text hms' => exact .text (hms.trans hms')
  | fragment source tag hcs =>
      cases h' with
      | fragment _ _ hcs' => exact .fragment source tag (hcs.trans hcs')

theorem Grows.children_subset {k k' : WidgetKind} (h : Grows k k') :
    k.children ⊆ k'.children := by
  cases h with
  | view => exact List.Subset.refl _
  | group hcs => exact hcs.subset
  | text hms => exact List.Subset.refl _
  | fragment source tag hcs => exact hcs.subset

theorem Learns.grows {k k' : WidgetKind} (h : Learns k k') : Grows k k' := by
  cases h with
  | same => exact .refl k
  | masks hms => exact .text hms

theorem grows_append (k : WidgetKind) (cs : List Nat) : Grows k (k.mapChildren (· ++ cs)) := by
  cases k with
  | view => exact .view
  | group => exact .group (List.prefix_append ..)
  | text => exact .text List.prefix_rfl
  | fragment _ source tag => exact .fragment source tag (List.prefix_append ..)

end WidgetKind

namespace Widget

/-- `e'` is the widget `e`, with more evidence and more children. -/
structure Grows (e e' : Widget) : Prop where
  id : e'.id = e.id
  guid : e'.guid = e.guid
  className : e'.className = e.className
  markupCallback : e'.markupCallback = e.markupCallback
  texts : e.texts.toList <+: e'.texts.toList
  others : e.others.entries <+: e'.others.entries
  listeners : e.listeners.toList <+: e'.listeners.toList
  idVariable : e.idVariable ≠ "" → e'.idVariable = e.idVariable
  kind : e.kind.Grows e'.kind

theorem Learns.grows {e e' : Widget} (h : Learns e e') : Grows e e' where
  id := h.id
  guid := h.guid
  className := h.className
  markupCallback := h.markupCallback
  texts := h.texts
  others := h.others
  listeners := h.listeners
  idVariable := h.idVariable
  kind := h.kind.grows

theorem Grows.refl (e : Widget) : Grows e e := (Learns.refl e).grows

theorem Grows.trans {e e' e'' : Widget} (h : Grows e e') (h' : Grows e' e'') : Grows e e'' where
  id := h'.id.trans h.id
  guid := h'.guid.trans h.guid
  className := h'.className.trans h.className
  markupCallback := h'.markupCallback.trans h.markupCallback
  texts := h.texts.trans h'.texts
  others := h.others.trans h'.others
  listeners := h.listeners.trans h'.listeners
  idVariable hne := by
    have hfirst := h.idVariable hne
    exact (h'.idVariable (hfirst ▸ hne)).trans hfirst
  kind := h.kind.trans h'.kind

theorem grows_appendChildren (e : Widget) (cs : List Nat) : Grows e (e.appendChildren cs) :=
  { Grows.refl e with kind := e.kind.grows_append cs }

end Widget

/-! ## Scenes -/

namespace Scene

/-- Every widget of `s` is still there, and has only grown. -/
def Grows (s s' : Scene) : Prop :=
  ∀ h e, s.get? h = some e → ∃ e', s'.get? h = some e' ∧ e.Grows e'

theorem Grows.refl (s : Scene) : Grows s s := fun _ e he => ⟨e, he, .refl e⟩

theorem Grows.trans {s s' s'' : Scene} (h : Grows s s') (h' : Grows s' s'') : Grows s s'' := by
  intro x e he
  obtain ⟨e', he', hgrows⟩ := h x e he
  obtain ⟨e'', he'', hgrows'⟩ := h' x e' he'
  exact ⟨e'', he'', hgrows.trans hgrows'⟩

theorem grows_modify (s : Scene) (h : Nat) {f : Widget → Widget}
    (hf : ∀ e : Widget, e.Grows (f e)) : s.Grows (s.modify h f) := by
  intro x e he
  rw [get?_modify, he]
  split
  · exact ⟨f e, rfl, hf e⟩
  · exact ⟨e, rfl, .refl e⟩

theorem grows_create (s : Scene) (id : Int32) (className : String) (kind : WidgetKind) :
    s.Grows (s.create id className kind).2 := by
  intro x e he
  rw [get?_create, if_neg (Nat.ne_of_lt (lt_size_of_get? he))]
  exact ⟨e, he, .refl e⟩

theorem grows_copyWithId (s : Scene) (h : Nat) (id : Int32) : s.Grows (s.copyWithId h id).2 := by
  intro x e he
  rw [get?_copyWithId_of_lt s id (lt_size_of_get? he)]
  exact ⟨e, he, .refl e⟩

end Scene

/-! ## Assemblers -/

/-- `b` has all that `a` has, and where the order shows, in the same order
and before all that is new. -/
structure Assembler.Grows {σ : Type} [DecidableEq σ] (a b : Assembler σ) : Prop where
  scene : a.scene.Grows b.scene
  merged : ∀ key h, a.merged.get? key = some h → b.merged.get? key = some h
  elements : a.attribution.elements.Extends b.attribution.elements
  calls : a.attribution.calls.Extends b.attribution.calls
  roots : a.roots.Extends b.roots
  menus : a.menus <+: b.menus
  dialogs : a.dialogs <+: b.dialogs
  skipped : a.skipped <+: b.skipped

namespace Assembler.Grows

variable {σ : Type} [DecidableEq σ] {a b c : Assembler σ}

theorem refl (a : Assembler σ) : Grows a a where
  scene := .refl _
  merged _ _ hget := hget
  elements := .refl _
  calls := .refl _
  roots := .refl _
  menus := List.prefix_rfl
  dialogs := List.prefix_rfl
  skipped := List.prefix_rfl

theorem trans (h : Grows a b) (h' : Grows b c) : Grows a c where
  scene := h.scene.trans h'.scene
  merged key x hget := h'.merged key x (h.merged key x hget)
  elements := h.elements.trans h'.elements
  calls := h.calls.trans h'.calls
  roots := h.roots.trans h'.roots
  menus := h.menus.trans h'.menus
  dialogs := h.dialogs.trans h'.dialogs
  skipped := h.skipped.trans h'.skipped

end Assembler.Grows

/-! ## Work -/

namespace Work

variable {σ : Type} [DecidableEq σ] {t : Task σ} {sites : List σ}

/-- A place that stands for no widget yet takes one, and no other place
changes. -/
theorem get?_insert_merged {w : Work σ} {key key' : MergeKey σ} {h h' : Nat}
    (hnew : w.merged.get? key = none) (hget : w.merged.get? key' = some h') :
    (w.merged.insert key h).get? key' = some h' := by
  have hne : key' ≠ key := by
    rintro rfl
    rw [hnew] at hget
    cases hget
  rw [OrderedMap.get?_insert, if_neg hne]
  exact hget

theorem Move.grows {x y : Set Nat × Work σ} (h : Move t sites x y) :
    x.2.toAssembler.Grows y.2.toAssembler := by
  have hsame := Assembler.Grows.refl x.2.toAssembler
  cases h with
  | learn hh hf =>
      exact { hsame with scene := Scene.grows_modify _ _ fun e => (hf e).grows }
  | attach =>
      exact { hsame with scene := Scene.grows_modify _ _ fun e => e.grows_appendChildren _ }
  | tag => exact { hsame with elements := OrderedMap.extends_tag _ _ _ }
  | call => exact { hsame with calls := OrderedMap.extends_tag _ _ _ }
  | addRoots =>
      exact { hsame with
        roots := OrderedMap.extends_update _ _ fun s => OrderedSet.prefix_insertAll s _ }
  | lookup className kind hs hnew =>
      exact { hsame with
        scene := Scene.grows_create _ _ _ _
        merged := fun _ _ => get?_insert_merged hnew }
  | allocation className kind hs hnew =>
      exact { hsame with
        scene := Scene.grows_create _ _ _ _
        merged := fun _ _ => get?_insert_merged hnew }
  | slot => exact { hsame with scene := Scene.grows_create _ _ _ _ }
  | copy => exact { hsame with scene := Scene.grows_copyWithId _ _ _ }
  | menu => exact { hsame with scene := .refl _, menus := List.prefix_append .. }
  | button => exact { hsame with scene := .refl _ }
  | _ => exact hsame

theorem Moves.grows {x y : Set Nat × Work σ} (h : Moves t sites x y) :
    x.2.toAssembler.Grows y.2.toAssembler := by
  induction h with
  | refl => exact .refl _
  | tail _ hmove ih => exact ih.trans hmove.grows

end Work

/-! ## Histories -/

namespace Assembler

variable {σ : Type} [DecidableEq σ]

theorem grows_assembleMethod (a : Assembler σ) (t : Task σ) (sites : List σ) :
    a.Grows (a.assembleMethod t sites).assembler := by
  have hrun : a.Grows (Work.run t sites (a.begin t sites)).1.toAssembler :=
    Work.Moves.grows (Work.moves_run sites (fun _ hs => hs) (a.begin t sites))
  rw [assembler_assembleMethod]
  split
  · exact hrun
  · exact { hrun with dialogs := hrun.dialogs.trans (List.prefix_append ..) }

theorem grows_assembleNext (q : Query σ) (o : Oracle σ) (r : UnitsRun σ) (u : MethodUnit σ) :
    r.assembler.Grows (assembleNext q o r u).assembler := by
  have hmethod := r.assembler.grows_assembleMethod ⟨q, o, u.origin⟩ u.sites
  unfold assembleNext
  dsimp only
  split
  · exact hmethod
  · exact { hmethod with skipped := hmethod.skipped.trans (List.prefix_append ..) }

theorem grows_assemble (a : Assembler σ) (q : Query σ) (o : Oracle σ)
    (units : List (MethodUnit σ)) : a.Grows (a.assemble q o units).assembler := by
  have hunits : ∀ (us : List (MethodUnit σ)) (r : UnitsRun σ),
      r.assembler.Grows (us.foldl (assembleNext q o) r).assembler := by
    intro us
    induction us with
    | nil => exact fun r => .refl _
    | cons u us ih => exact fun r => (grows_assembleNext q o r u).trans (ih _)
  exact hunits units { assembler := a, stats := [], log := [] }

/-- Evidence only grows. Whatever state a method is in, processing a site
keeps every widget with its identity, its evidence and its children, every
place with its widget, and adds to all lists at their ends only; and so does
every assembly call, whether its methods fail or not. -/
theorem evidence_grows :
    (∀ (t : Task σ) (w : Work σ) (s : σ), w.toAssembler.Grows (w.step t s).1.toAssembler) ∧
    (∀ (a : Assembler σ) (t : Task σ) (sites : List σ),
      a.Grows (a.assembleMethod t sites).assembler) ∧
    ∀ (a : Assembler σ) (q : Query σ) (o : Oracle σ) (units : List (MethodUnit σ)),
      a.Grows (a.assemble q o units).assembler := by
  refine ⟨fun t w s => ?_, grows_assembleMethod, grows_assemble⟩
  have hmoves : Work.Moves t [s] (∅, w) (∅, (w.step t s).1) :=
    Work.moves_step w List.mem_cons_self
  exact hmoves.grows

end Assembler

end UiRecovery
