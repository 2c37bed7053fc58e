import Mathlib.Data.Set.Insert
import UiRecovery.Proofs.Effects
import UiRecovery.Proofs.Evidence
import UiRecovery.Proofs.Reach

/-!
# Moves

What work on a method can do to its state, said once. `Work.Move` lists
the elementary changes, and this module shows that the small operations
of `Work` and the loops over them are sequences of moves. A property that
each move keeps is then kept by all work, and a proof of it looks at the
moves only, not at the actions.

A move relates pairs: the state, and the *hand*, the handles that the
work has got hold of. The hand is no part of the state. It is what lets a
move say where the handles come from that it writes: `Graspable` has the
sources (locals, the places of the method, the screens of the component,
and whatever these hold), and every handle that is written is in the
hand. A handle of a template is in none of the sources.
-/

namespace UiRecovery

/-- The kind of a widget of which nothing is known yet. -/
def WidgetKind.bare : WidgetKind → WidgetKind
  | .view => .view
  | .group _ => .group []
  | .text _ => .text ∅
  | .fragment _ source tag => .fragment [] source tag

@[simp]
theorem WidgetKind.children_bare (k : WidgetKind) : k.bare.children = [] := by
  cases k <;> rfl

/-- The place in the code that a key speaks of. -/
def MergeKey.site {σ : Type} : MergeKey σ → σ
  | .lookup site _ => site
  | .allocation site => site

namespace Work

variable {σ : Type} [DecidableEq σ]

/-! ## The moves -/

/-- A handle that work at the given sites can get hold of in the state
`w`, when it has a hold of those in `H`. -/
inductive Graspable (t : Task σ) (sites : List σ) (H : Set Nat) (w : Work σ) : Nat → Prop
  | held {h : Nat} (hh : h ∈ H) : Graspable t sites H w h
  | bound {name : Option String} {h : Nat} (hh : h ∈ w.bound name) : Graspable t sites H w h
  | merged (key : MergeKey σ) {h : Nat} (hkey : key.site ∈ sites)
      (hh : w.merged.get? key = some h) : Graspable t sites H w h
  | screen {roots : OrderedSet Nat} {h : Nat} (hroots : w.roots.get? t.origin = some roots)
      (hh : h ∈ roots) : Graspable t sites H w h
  | child {h c : Nat} (hh : Graspable t sites H w h) (hc : c ∈ w.scene.children h) :
      Graspable t sites H w c

theorem Graspable.reaches {t : Task σ} {sites : List σ} {H : Set Nat} {w : Work σ}
    {h x : Nat} (hh : Graspable t sites H w h) (hx : w.scene.Reaches h x) :
    Graspable t sites H w x := by
  induction hx with
  | refl => exact hh
  | tail _ hc ih => exact .child ih hc

/-- The elementary changes of hand and state. -/
inductive Move (t : Task σ) (sites : List σ) : Set Nat × Work σ → Set Nat × Work σ → Prop
  /-- Take another hand, of handles within reach. -/
  | grasp {H H' : Set Nat} {w : Work σ} (hH : ∀ h ∈ H', Graspable t sites H w h) :
      Move t sites (H, w) (H', w)
  | report {H : Set Nat} {w : Work σ} (log : List LogLine) (selfCycles unknowns : Nat) :
      Move t sites (H, w) (H, { w with log, selfCycles, unknowns })
  | bind {H : Set Nat} {w : Work σ} (name : String) {hs : OrderedSet Nat}
      (hhs : ∀ h ∈ hs, h ∈ H) :
      Move t sites (H, w) (H, { w with locals := w.locals.insert name hs })
  | forget {H : Set Nat} {w : Work σ} (name : String) :
      Move t sites (H, w) (H, { w with locals := w.locals.erase name })
  | learn {H : Set Nat} {w : Work σ} {h : Nat} {f : Widget → Widget} (hh : h ∈ H)
      (hf : ∀ e : Widget, e.Learns (f e)) :
      Move t sites (H, w) (H, { w with scene := w.scene.modify h f })
  | tag {H : Set Nat} {w : Work σ} {h : Nat} (hh : h ∈ H) :
      Move t sites (H, w) (H, w.tag t.origin h)
  | attach {H : Set Nat} {w : Work σ} {parent child : Nat} (hparent : parent ∈ H)
      (hchild : child ∈ H) (hne : parent ≠ child)
      (hnew : child ∉ w.scene.children parent) :
      Move t sites (H, w)
        (H, { w with scene := w.scene.modify parent (·.appendChildren [child]) })
  | addRoots {H : Set Nat} {w : Work σ} {hs : List Nat} (hhs : ∀ h ∈ hs, h ∈ H) :
      Move t sites (H, w)
        (H, { w with roots := w.roots.update t.origin fun roots => (roots.getD ∅).insertAll hs })
  /-- The first widget for one id of a lookup. -/
  | lookup {H : Set Nat} {w : Work σ} {s : σ} {id : Int32} (className : String)
      (kind : WidgetKind) (hs : s ∈ sites) (hnew : w.merged.get? (.lookup s id) = none) :
      Move t sites (H, w) (insert w.scene.size H,
        { (w.createWidget id className kind.bare).2 with
          merged := w.merged.insert (.lookup s id) w.scene.size })
  /-- The first widget for a place that makes one. -/
  | allocation {H : Set Nat} {w : Work σ} {s : σ} (className : String) (kind : WidgetKind)
      (hs : s ∈ sites) (hnew : w.merged.get? (.allocation s) = none) :
      Move t sites (H, w) (insert w.scene.size H,
        { (w.createDynamic className kind.bare).2 with
          merged := w.merged.insert (.allocation s) w.scene.size })
  /-- A place for a fragment. -/
  | slot {H : Set Nat} {w : Work σ} (className tag : String) :
      Move t sites (H, w) (insert w.scene.size H,
        (w.createWidget Widget.missingId className (.fragment [] .transaction tag)).2)
  /-- A copy of what a layout declares. -/
  | copy {H : Set Nat} {w : Work σ} {id : Int32} {layout : Layout} {h : Nat}
      (hlayout : w.layouts.get? id = some layout) (hh : h ∈ layout.roots) :
      Move t sites (H, w)
        (insert w.scene.size H, { w with scene := (w.scene.copy h).2 })
  | menu {H : Set Nat} {w : Work σ} {id : Int32} {template : Menu} (type : MenuType)
      (hmenu : w.menuTemplates.get? id = some template) :
      Move t sites (H, w) (H,
        { w with
          scene := w.scene.advanceMint template.itemCount
          menus := w.menus ++
            [(t.origin,
              { (template.copy w.scene.mint).1 with type, listener := type.listener? })] })
  | draft {H : Set Nat} {w : Work σ} :
      Move t sites (H, w) (H, { w with drafts := w.drafts ++ [({} : Dialog)] })
  /-- Let a local denote the latest draft, or one that a local denotes. -/
  | bindDraft {H : Set Nat} {w : Work σ} (name : String) {draft : Nat}
      (hdraft : draft + 1 = w.drafts.length ∨
        ∃ name', w.draftLocals.get? name' = some draft) :
      Move t sites (H, w) (H, { w with draftLocals := w.draftLocals.insert name draft })
  | forgetDraft {H : Set Nat} {w : Work σ} (name : String) :
      Move t sites (H, w) (H, { w with draftLocals := w.draftLocals.erase name })
  | describe {H : Set Nat} {w : Work σ} {draft : Nat} {f : Dialog → Dialog}
      (hdraft : ∃ name, w.draftLocals.get? name = some draft)
      (hf : ∀ d, (f d).buttons = d.buttons) :
      Move t sites (H, w) (H, { w with drafts := w.drafts.modify draft f })
  | button {H : Set Nat} {w : Work σ} {draft : Nat} (labels : OrderedSet String)
      (role : ButtonRole) (listeners : OrderedSet String)
      (hdraft : ∃ name, w.draftLocals.get? name = some draft) :
      Move t sites (H, w) (H,
        { w with
          scene := w.scene.advanceMint 1
          drafts := w.drafts.modify draft fun d =>
            { d with buttons := d.buttons ++ [⟨w.scene.mint.next, labels, role, listeners⟩] } })
  | call {H : Set Nat} {w : Work σ} {s : σ} {signature : String} (hs : s ∈ sites)
      (htrack : w.settings.trackCalls = true)
      (hsignature : t.query.callSignature s = some signature) :
      Move t sites (H, w)
        (H, { w with attribution := w.attribution.tagCall signature t.origin })

abbrev Moves (t : Task σ) (sites : List σ) :
    Set Nat × Work σ → Set Nat × Work σ → Prop :=
  Relation.ReflTransGen (Move t sites)

/-! ## What no move touches -/

end Work

/-- `b` agrees with `a` in all that work on a method only reads. -/
structure Assembler.Untouched {σ : Type} (a b : Assembler σ) : Prop where
  settings : b.settings = a.settings
  layouts : b.layouts = a.layouts
  menuTemplates : b.menuTemplates = a.menuTemplates
  dialogs : b.dialogs = a.dialogs
  skipped : b.skipped = a.skipped

namespace Work

variable {σ : Type} [DecidableEq σ] {t : Task σ} {sites : List σ}

theorem Move.untouched {x y : Set Nat × Work σ} (h : Move t sites x y) :
    x.2.toAssembler.Untouched y.2.toAssembler := by
  cases h <;> exact ⟨rfl, rfl, rfl, rfl, rfl⟩

theorem Moves.untouched {x y : Set Nat × Work σ} (h : Moves t sites x y) :
    x.2.toAssembler.Untouched y.2.toAssembler := by
  induction h with
  | refl => exact ⟨rfl, rfl, rfl, rfl, rfl⟩
  | tail _ hmove ih =>
      have hlast := hmove.untouched
      exact ⟨hlast.settings.trans ih.settings, hlast.layouts.trans ih.layouts,
        hlast.menuTemplates.trans ih.menuTemplates, hlast.dialogs.trans ih.dialogs,
        hlast.skipped.trans ih.skipped⟩

/-! ## Elementary steps of the work

Each of the small operations of `Work` is a few moves, or none. -/

theorem moves_grasp {H H' : Set Nat} {w : Work σ}
    (hH : ∀ h ∈ H', Graspable t sites H w h) : Moves t sites (H, w) (H', w) :=
  .single (.grasp hH)

/-- Let go of handles. -/
theorem moves_drop {H H' : Set Nat} (w : Work σ) (hH : H' ⊆ H) :
    Moves t sites (H, w) (H', w) :=
  moves_grasp fun _ hh => .held (hH hh)

theorem moves_release {H : Set Nat} (w : Work σ) : Moves t sites (H, w) (∅, w) :=
  moves_drop w (Set.empty_subset H)

theorem moves_insert {H : Set Nat} {w : Work σ} {h : Nat}
    (hh : Graspable t sites H w h) : Moves t sites (H, w) (insert h H, w) := by
  refine moves_grasp fun x hx => ?_
  rcases Set.mem_insert_iff.mp hx with rfl | hx
  · exact hh
  · exact .held hx

theorem moves_note {H : Set Nat} (w : Work σ) (line : LogLine) :
    Moves t sites (H, w) (H, w.note line) :=
  .single (.report _ w.selfCycles w.unknowns)

theorem moves_askInts {H : Set Nat} (w : Work σ) (ref : ValueRef) (s : σ) :
    Moves t sites (H, w) (H, (w.askInts t ref s).2) := by
  unfold askInts
  dsimp only
  split
  · exact .single (.report _ w.selfCycles _)
  · exact .refl

theorem moves_askLabels {H : Set Nat} (w : Work σ) (ref : ValueRef) (s : σ) :
    Moves t sites (H, w) (H, (w.askLabels t ref s).2) := by
  unfold askLabels
  dsimp only
  split
  · exact .single (.report _ w.selfCycles _)
  · exact .refl

theorem moves_askIntsAt {H : Set Nat} (w : Work σ) (position : Option Nat) (s : σ) :
    Moves t sites (H, w) (H, (w.askIntsAt t position s).2) := by
  cases position with
  | none => exact .refl
  | some i => exact moves_askInts w (.arg i) s

theorem moves_askLabelsAt {H : Set Nat} (w : Work σ) (position : Option Nat) (s : σ) :
    Moves t sites (H, w) (H, (w.askLabelsAt t position s).2) := by
  cases position with
  | none => exact .refl
  | some i => exact moves_askLabels w (.arg i) s

theorem moves_bindLocal {H : Set Nat} (w : Work σ) (name : Option String) {hs : List Nat}
    (hhs : ∀ h ∈ hs, h ∈ H) : Moves t sites (H, w) (H, w.bindLocal name hs) := by
  cases name with
  | none => exact .refl
  | some name =>
      by_cases hempty : (OrderedSet.ofList hs).isEmpty
      · simp only [bindLocal, hempty, if_true]
        exact .single (.forget name)
      · simp only [bindLocal, hempty]
        exact .single (.bind name fun h hh => hhs h (OrderedSet.mem_ofList.mp hh))

theorem moves_bindOne {H : Set Nat} (w : Work σ) (name : Option String) {h : Nat}
    (hh : h ∈ H) : Moves t sites (H, w) (H, w.bindLocal name [h]) :=
  moves_bindLocal w name fun _ hx => List.mem_singleton.mp hx ▸ hh

theorem moves_unbindLocal {H : Set Nat} (w : Work σ) (name : Option String) :
    Moves t sites (H, w) (H, w.unbindLocal name) := by
  cases name with
  | none => exact .refl
  | some name => exact .tail (.single (.forget name)) (.forgetDraft name)

theorem moves_bindDraft {H : Set Nat} (w : Work σ) (name : Option String) {draft : Nat}
    (hdraft : draft + 1 = w.drafts.length ∨ ∃ name', w.draftLocals.get? name' = some draft) :
    Moves t sites (H, w) (H, w.bindDraft name draft) := by
  cases name with
  | none => exact .refl
  | some name => exact .single (.bindDraft name hdraft)

theorem moves_nameAfter {H : Set Nat} (w : Work σ) {h : Nat} (name : Option String)
    (hh : h ∈ H) : Moves t sites (H, w) (H, w.nameAfter h name) := by
  cases name with
  | none => exact .refl
  | some name => exact .single (.learn hh fun e => Widget.learns_nameAfter e name)

theorem moves_addRoots {H : Set Nat} (w : Work σ) {hs : List Nat} (hhs : ∀ h ∈ hs, h ∈ H) :
    Moves t sites (H, w) (H, w.addRoots t.origin hs) := by
  unfold addRoots
  split
  · exact .refl
  · exact .single (.addRoots hhs)

theorem moves_attach {H : Set Nat} (w : Work σ) {parent child : Nat}
    (hparent : parent ∈ H) (hchild : child ∈ H) :
    Moves t sites (H, w) (H, w.attach parent child) := by
  rw [attach_eq]
  split
  · exact .refl
  · rename_i hnew
    rcases w.scene.addChild_cases parent child with hsame | ⟨e, -, -, herr⟩ | ⟨hne, hok⟩
    · rw [hsame]
    · rw [herr]
      exact .single (.report _ _ w.unknowns)
    · rw [hok]
      exact .single (.attach hparent hchild hne (by simpa using hnew))

/-! ## Several at once -/

/-- A loop whose every turn is a few moves with the same hand. -/
theorem moves_foldl {α : Type} {step : Work σ → α → Work σ} {H : Set Nat} {as : List α}
    (hstep : ∀ a ∈ as, ∀ w, Moves t sites (H, w) (H, step w a)) (w : Work σ) :
    Moves t sites (H, w) (H, as.foldl step w) := by
  have : IsPreorder (Work σ) fun w w' => Moves t sites (H, w) (H, w') :=
    { refl := fun _ => .refl, trans := fun _ _ _ => .trans }
  exact foldl_related (R := fun w w' => Moves t sites (H, w) (H, w')) hstep w

theorem moves_modifyWidgets {H : Set Nat} (w : Work σ) {hs : List Nat}
    {f : Widget → Widget} (hhs : ∀ h ∈ hs, h ∈ H) (hf : ∀ e : Widget, e.Learns (f e)) :
    Moves t sites (H, w) (H, w.modifyWidgets hs f) := by
  rw [modifyWidgets_eq]
  exact moves_foldl (fun h hh _ => .single (.learn (hhs h hh) hf)) w

theorem moves_attachAll {H : Set Nat} (w : Work σ) {parents children : List Nat}
    (hparents : ∀ p ∈ parents, p ∈ H) (hchildren : ∀ c ∈ children, c ∈ H) :
    Moves t sites (H, w) (H, w.attachAll parents children) := by
  rw [attachAll_eq]
  exact moves_foldl (fun p hp w' =>
    moves_foldl (fun c hc w'' => moves_attach w'' (hparents p hp) (hchildren c hc)) w') w

theorem moves_tagTree {H : Set Nat} (w : Work σ) {h : Nat} (hh : h ∈ H) :
    Moves t sites (H, w) (H, w.tagTree t.origin h) := by
  -- The whole tree is taken in hand, tagged, and let go.
  have htree : Moves t sites (H, w) (H ∪ {x | x ∈ w.scene.depthFirst h}, w) := by
    refine moves_grasp fun x hx => ?_
    rcases hx with hx | hx
    · exact .held hx
    · exact (Graspable.held hh).reaches (Scene.reaches_of_mem_depthFirst hx)
  rw [tagTree_eq]
  refine (htree.trans (moves_foldl (fun x hx _ => .single (.tag (Or.inr hx))) w)).trans ?_
  exact moves_drop _ Set.subset_union_left

/-- A loop that collects one handle in each turn. What a turn needs of
the state is `Q`, what it needs in hand is `K`. -/
theorem moves_collect {α : Type} (step : Work σ → α → Nat × Work σ)
    (Q : Work σ → Prop) (K : Set Nat) :
    ∀ (as : List α),
      (∀ a ∈ as, ∀ w, Q w → Q (step w a).2 ∧ ∀ H, K ⊆ H →
        Moves t sites (H, w) (insert (step w a).1 H, (step w a).2)) →
      ∀ w, Q w → ∀ H, K ⊆ H →
        Moves t sites (H, w)
          (H ∪ {h | h ∈ (collect step as w).1}, (collect step as w).2)
  | [], _, w, _, H, _ => moves_drop w (by simp [collect_nil])
  | a :: as, hstep, w, hQ, H, hK => by
      obtain ⟨hQ', hfirst⟩ := hstep a List.mem_cons_self w hQ
      have hrest := moves_collect step Q K as
        (fun b hb => hstep b (List.mem_cons_of_mem a hb)) (step w a).2 hQ'
        (insert (step w a).1 H) (hK.trans (Set.subset_insert _ _))
      refine ((hfirst H hK).trans hrest).trans (moves_drop _ ?_)
      rintro h (hh | hh)
      · exact Or.inl (Or.inr hh)
      · rcases List.mem_cons.mp hh with rfl | hh
        · exact Or.inl (Or.inl rfl)
        · exact Or.inr hh

theorem moves_collectAll {α : Type} {step : Work σ → α → List Nat × Work σ}
    (hstep : ∀ a w H, Moves t sites (H, w) (H ∪ {h | h ∈ (step w a).1}, (step w a).2)) :
    ∀ (as : List α) (w : Work σ) (H : Set Nat),
      Moves t sites (H, w)
        (H ∪ {h | h ∈ (collectAll step as w).1}, (collectAll step as w).2)
  | [], w, H => moves_drop w (by simp [collectAll_nil])
  | a :: as, w, H => by
      have hrest := moves_collectAll hstep as (step w a).2 (H ∪ {h | h ∈ (step w a).1})
      refine ((hstep a w H).trans hrest).trans (moves_drop _ ?_)
      rintro h (hh | hh)
      · exact Or.inl (Or.inl hh)
      · rcases List.mem_append.mp hh with hh | hh
        · exact Or.inl (Or.inr hh)
        · exact Or.inr hh

end Work

end UiRecovery
