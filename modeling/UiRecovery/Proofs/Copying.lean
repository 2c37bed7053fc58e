import Mathlib.Data.Set.Card
import UiRecovery.Proofs.Guarded

/-!
# Copies are isomorphic

A deep copy of a widget has one new widget for each that the widget holds,
however these share children, repeat them or run in circles, and the new
widgets hold one another exactly as the old ones do.

The loop makes the copies in the order of a walk. `copyHandle` is the
renaming from old to new: the place of a widget in that walk, counted from
the end of the scene. A walk finds each widget once, so this is a bijection
from what is held onto what is added (`bijOn_copyHandle`), and the copy of a
widget is the widget itself with its children renamed (`get?_copyHandle`).
The headline theorem `copy_isomorphic` puts the two together.
-/

namespace UiRecovery.Scene

variable {s : Scene} {h x : Nat}

/-! ## The renaming -/

theorem injOn_copyHandle (s : Scene) (h : Nat) :
    Set.InjOn (s.copyHandle (s.depthFirst h)) {x | s.Reaches h x} := by
  intro x hx y _ heq
  have hidx : (s.depthFirst h).idxOf x = (s.depthFirst h).idxOf y := Nat.add_left_cancel heq
  exact (List.idxOf_inj (mem_depthFirst.mpr hx)).mp hidx

/-- Every new widget is the copy of one that is held. -/
theorem exists_copyHandle_eq {id : Int32} {y : Nat} (hlow : s.size ≤ y)
    (hhigh : y < (s.copyWithId h id).2.size) :
    ∃ x, s.Reaches h x ∧ s.copyHandle (s.depthFirst h) x = y := by
  rw [size_copyWithId] at hhigh
  have hlt : y - s.size < (s.depthFirst h).length := by omega
  refine ⟨(s.depthFirst h)[y - s.size], reaches_of_mem_depthFirst (List.getElem_mem hlt), ?_⟩
  rw [copyHandle_getElem (List.getElem?_eq_getElem hlt)]
  omega

theorem bijOn_copyHandle (s : Scene) (h : Nat) (id : Int32) :
    Set.BijOn (s.copyHandle (s.depthFirst h)) {x | s.Reaches h x}
      {y | s.size ≤ y ∧ y < (s.copyWithId h id).2.size} := by
  refine ⟨?_, s.injOn_copyHandle h, ?_⟩
  · intro x hx
    exact ⟨Nat.le_add_right _ _, copyHandle_lt id hx⟩
  · rintro y ⟨hlow, hhigh⟩
    exact exists_copyHandle_eq hlow hhigh

/-- As many widgets are held as the walk finds. -/
theorem ncard_reaches (s : Scene) (h : Nat) :
    {x | s.Reaches h x}.ncard = (s.depthFirst h).length := by
  have hset : {x | s.Reaches h x} = ((s.depthFirst h).toFinset : Set Nat) := by
    ext x
    simp [mem_depthFirst]
  rw [hset, Set.ncard_coe_finset, List.toFinset_card_of_nodup (s.nodup_depthFirst h)]

/-! ## The copies -/

/-- The copy of a widget is named by its place among the copies. -/
theorem get?_copyHandle (id : Int32) (hx : s.Reaches h x) :
    let f := s.copyHandle (s.depthFirst h)
    (s.copyWithId h id).2.get? (f x) =
      some ((s.widget x).copyAs (if x = h then id else (s.widget x).id)
        (s.mint.nth (f x - s.size)) f) := by
  obtain ⟨i, hi⟩ := List.getElem?_of_mem (mem_depthFirst.mpr hx)
  dsimp only
  rw [copyHandle_getElem hi, get?_copyWithId_add, hi, Nat.add_sub_cancel_left]
  rfl

/-- A deep copy is isomorphic to what it copies. The loop that makes it is
over within its bound, with nothing pending, and the scene is the same when
it goes on for longer or when it is shown the copies as well; it never comes
to a handle that is not in the scene. Nothing that was in the scene is
changed, and as many widgets are added as the copied one holds, itself
included. A bijection takes each of these to its copy, which differs from it in three
things: the root has the new id, guids are the next of the mint in the
order of the handles, and the children are the copies of the children, in
the same order and as often. -/
theorem copy_isomorphic (hs : s.InRange) (hh : h < s.size) (id : Int32) :
    let r := s.copyWithId h id
    let held := {x | s.Reaches h x}
    (∀ n ≥ s.walkBound, ∀ limit ≥ s.size, ∃ c,
        Copying.run Guarded.look limit n (s.startCopy h (s.widget h) id).2 = some c ∧
          c.pending = [] ∧ c.scene = r.2) ∧
      Guarded.copyWithId s h id = some r ∧
      (∀ x < s.size, r.2.get? x = s.get? x) ∧
      r.2.size = s.size + held.ncard ∧ r.2.mint = s.mint.advance held.ncard ∧
      ∃ f : Nat → Nat, Set.BijOn f held {y | s.size ≤ y ∧ y < r.2.size} ∧ f h = r.1 ∧
        ∀ x ∈ held, ∃ e, s.get? x = some e ∧
          r.2.get? (f x) = some { e with
            id := if x = h then id else e.id
            guid := s.mint.nth (f x - s.size)
            kind := e.kind.mapChildren (List.map f) } ∧
          r.2.children (f x) = (s.children x).map f := by
  intro r held
  refine ⟨fun n hn limit hlimit => ?_, Guarded.copyWithId_eq hs hh id,
    fun x hx => get?_copyWithId_of_lt s id hx, ?_, ?_,
    s.copyHandle (s.depthFirst h), s.bijOn_copyHandle h id, s.copyHandle_root h, ?_⟩
  · obtain ⟨c, hrun, hover, hscene⟩ :=
      run_startCopy (fun x hx => Guarded.shows (hs.reaches hh hx) hlimit) id hn
    refine ⟨c, hrun, hover, hscene.trans ?_⟩
    rw [show r = _ from copyWithId_eq s h id]
  · rw [s.ncard_reaches h]
    exact s.size_copyWithId h id
  · rw [s.ncard_reaches h]
    exact s.mint_copyWithId h id
  · intro x hx
    have hlt : x < s.size := hs.reaches hh hx
    exact ⟨s.widget x, get?_of_lt hlt, get?_copyHandle id hx, s.children_copyWithId id hx⟩

/-- A group that holds another twice, which holds it in turn; both hold
one text field. A fourth widget stands apart. -/
def sharedCircle : Scene where
  widgets :=
    [{ id := 1, guid := ⟨1⟩, className := "android.widget.LinearLayout", kind := .group [1, 2, 1] },
      { id := 2, guid := ⟨2⟩, className := "android.widget.FrameLayout", kind := .group [2, 0] },
      { id := 3, guid := ⟨3⟩, className := "android.widget.EditText",
        kind := .text (.ofList [33]) },
      { id := 4, guid := ⟨4⟩, className := "android.view.View", kind := .view }]
  mint := ⟨6⟩

theorem copy_isomorphic_sharedCircle :
    let s := sharedCircle
    let r := s.copyWithId 0 9
    let held := {x | s.Reaches 0 x}
    s.InRange ∧ r.1 = 4 ∧ r.2.size = 7 ∧
      (List.range 3).map (fun i => r.2.children (4 + i)) = [[5, 6, 5], [6, 4], []] ∧
      (List.range 3).map (fun i => (r.2.widget (4 + i)).guid.value) = [7, 8, 9] ∧
      7 = 4 + held.ncard ∧
      ∃ f : Nat → Nat, Set.BijOn f held {y | 4 ≤ y ∧ y < 7} ∧ f 0 = 4 ∧
        ∀ x ∈ held, ∃ e, s.get? x = some e ∧
          r.2.get? (f x) = some { e with
            id := if x = 0 then 9 else e.id
            guid := s.mint.nth (f x - 4)
            kind := e.kind.mapChildren (List.map f) } ∧
          r.2.children (f x) = (s.children x).map f := by
  intro s r held
  have hrange : s.InRange := by
    intro x c hc
    have hall : ∀ x < 4, ∀ c ∈ s.children x, c < s.size := by decide +kernel
    obtain ⟨e, he, -⟩ := mem_children.mp hc
    exact hall x (List.getElem?_eq_some_iff.mp he).1 c hc
  have hsize : r.2.size = 7 := by decide +kernel
  obtain ⟨-, -, -, hcount, -, f, hf, hroot, hcopies⟩ :=
    copy_isomorphic hrange (h := 0) (by decide) 9
  refine ⟨hrange, rfl, hsize, by decide +kernel, by decide +kernel, hsize.symm.trans hcount, f, ?_,
    hroot, hcopies⟩
  rw [← hsize]
  exact hf

end UiRecovery.Scene
