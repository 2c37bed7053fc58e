import Mathlib.Data.List.Find
import UiRecovery.Proofs.Copying

/-!
# Flattening

A walk of a scene is given a bound on its steps. `Walked` has no bound: it
is the walk that goes on for as long as a handle waits, and says what is
found at its end. A walk within its budget comes to that end
(`Exploring.walked`), so the list of what a container holds is complete
and not cut off (`flatten_exact`).

The second half is about copies. The walks over a copy go along with the
walks over the original, step by step (`depthFirst_copyWithId`,
`breadthFirst_copyWithId`), since the copy of a widget has the copies of
its children. Copies are made in the order of one of these walks, so that
walk finds them in the order of their handles. `walks_of_copy` is what
both walks give together.
-/

namespace UiRecovery

/-! ## Walks without a bound -/

/-- The walk that goes on from `found`, with `waiting` yet to be expanded,
ends with `all` found. -/
inductive Walked (next : Nat → List Nat) (place : List Nat → List Nat → List Nat) :
    List Nat → List Nat → List Nat → Prop
  | over (found : List Nat) : Walked next place found [] found
  | expand {found waiting all : List Nat} {h : Nat}
      (hrest : Walked next place (found ++ fresh found (next h))
        (place (fresh found (next h)) waiting) all) :
      Walked next place found (h :: waiting) all

/-- A walk within its budget ends because nothing waits any more. -/
theorem Exploring.walked {next : Nat → List Nat} {all : List Nat}
    {place : List Nat → List Nat → List Nat} (hnext : ∀ x, next x ⊆ all)
    (hplace : ∀ new waiting, (place new waiting).Perm (new ++ waiting)) :
    ∀ {steps : Nat} {found waiting : List Nat}, Exploring next all steps found waiting →
      Walked next place found waiting (explore next place steps found waiting)
  | 0, found, waiting, hw => by
      obtain rfl := hw.waiting_eq_nil
      exact .over found
  | _ + 1, found, [], _ => .over found
  | _ + 1, _, _ :: _, hw => .expand (walked hnext hplace (hw.step hnext hplace))

namespace Scene

variable {s : Scene} {h x : Nat}

theorem walked_depthFirst (s : Scene) (h : Nat) :
    Walked s.children placeLast [h] [h] (s.depthFirst h) :=
  (s.exploring h).walked (s.children_subset_cons h) placeLast_perm

theorem head?_depthFirst (s : Scene) (h : Nat) : (s.depthFirst h).head? = some h := by
  obtain ⟨rest, hrest⟩ := s.prefix_depthFirst h
  rw [← hrest]
  rfl

theorem flatten_of_isContainer (hcontainer : s.isContainer h = true) :
    s.flatten h = s.depthFirst h := by
  rw [flatten_eq, if_pos hcontainer]

theorem lt_size_of_isContainer (hcontainer : s.isContainer h = true) : h < s.size := by
  obtain ⟨e, hget, -⟩ := exists_of_isContainer hcontainer
  exact lt_size_of_get? hget

/-- The flattening of a container, circles or not: the walk comes to its
end without a look behind a handle that is not in the scene, and has found
what the container holds, itself first, each widget once and no other. A
leaf has an empty one. -/
theorem flatten_exact (hs : s.InRange) (hh : h < s.size) :
    Guarded.flatten s h = some (s.flatten h) ∧
      (s.isContainer h = true →
        Walked s.children placeLast [h] [h] (s.flatten h) ∧
          (s.flatten h).Nodup ∧ (s.flatten h).head? = some h ∧
          ∀ x, x ∈ s.flatten h ↔ s.Reaches h x) ∧
      (s.isContainer h = false → s.flatten h = []) := by
  refine ⟨Guarded.flatten_eq hs hh, ?_, ?_⟩
  · intro hcontainer
    rw [flatten_of_isContainer hcontainer]
    exact ⟨s.walked_depthFirst h, s.nodup_depthFirst h, s.head?_depthFirst h,
      fun x => mem_depthFirst⟩
  · intro hleaf
    simp [Scene.flatten_eq, hleaf]

theorem inRange_sharedCircle : sharedCircle.InRange := by decide +kernel

/-- The circle is gone through once. The text field in it holds nothing,
and the widget that stands apart is not found. -/
theorem flatten_exact_sharedCircle :
    let s := sharedCircle
    s.InRange ∧ s.flatten 0 = [0, 1, 2] ∧ Guarded.flatten s 0 = some [0, 1, 2] ∧
      Walked s.children placeLast [0] [0] [0, 1, 2] ∧
      (∀ x, x ∈ [0, 1, 2] ↔ s.Reaches 0 x) ∧ s.flatten 2 = [] := by
  intro s
  have hflat : s.flatten 0 = [0, 1, 2] := by decide +kernel
  obtain ⟨hguarded, hcontainer, -⟩ := flatten_exact inRange_sharedCircle (h := 0) (by decide)
  obtain ⟨hwalked, -, -, hmem⟩ := hcontainer rfl
  obtain ⟨-, -, hleaf⟩ := flatten_exact inRange_sharedCircle (h := 2) (by decide)
  refine ⟨inRange_sharedCircle, hflat, ?_, ?_, ?_, hleaf rfl⟩
  · exact hguarded.trans (congrArg some hflat)
  · rw [← hflat]
    exact hwalked
  · rw [← hflat]
    exact hmem

/-! ## Walks over copies -/

/-- Any walk from the copy of a widget finds the copies of what the same
walk finds from the widget. -/
theorem explore_copyWithId (s : Scene) (h : Nat) (id : Int32)
    {place : List Nat → List Nat → List Nat}
    (hplace : ∀ new waiting, (place new waiting).Perm (new ++ waiting))
    (hnatural : ∀ (rename : Nat → Nat) (new waiting : List Nat),
      place (new.map rename) (waiting.map rename) = (place new waiting).map rename) (n : Nat) :
    explore (s.copyWithId h id).2.children place n [s.size] [s.size] =
      (explore s.children place n [h] [h]).map (s.copyHandle (s.depthFirst h)) := by
  have hstart : ∀ x ∈ [h], s.Reaches h x := by
    intro x hx
    rw [List.mem_singleton.mp hx]
    exact .refl
  rw [← s.copyHandle_root h]
  exact explore_map (P := s.Reaches h) (fun x y hx hy heq => s.injOn_copyHandle h hx hy heq)
    (fun x hx => s.children_copyWithId id hx) (fun _ hx _ hc => hx.tail hc) hplace
    (hnatural _) n [h] [h] hstart hstart

theorem depthFirst_copyWithId (s : Scene) (h : Nat) (id : Int32) :
    (s.copyWithId h id).2.depthFirst s.size =
      (s.depthFirst h).map (s.copyHandle (s.depthFirst h)) := by
  -- The bounds of the two scenes differ, and a common one is enough for both.
  let n := max s.walkBound (s.copyWithId h id).2.walkBound
  have hwalk := s.explore_copyWithId h id placeLast_perm placeLast_map n
  rwa [← depthFirst_eq (Nat.le_max_left _ _), ← depthFirst_eq (Nat.le_max_right _ _)] at hwalk

theorem breadthFirst_copyWithId (s : Scene) (h : Nat) (id : Int32) :
    (s.copyWithId h id).2.breadthFirst s.size =
      (s.breadthFirst h).map (s.copyHandle (s.depthFirst h)) := by
  let n := max s.walkBound (s.copyWithId h id).2.walkBound
  have hwalk := s.explore_copyWithId h id placeFirst_perm placeFirst_map n
  rwa [← breadthFirst_eq (Nat.le_max_left _ _), ← breadthFirst_eq (Nat.le_max_right _ _)] at hwalk

/-- Copies are made in the order of the walk, on one handle after the
other. -/
theorem map_copyHandle_depthFirst (s : Scene) (h : Nat) :
    (s.depthFirst h).map (s.copyHandle (s.depthFirst h)) =
      List.range' s.size (s.depthFirst h).length := by
  refine List.ext_getElem (by simp) ?_
  intro i hi hi'
  have hlt : i < (s.depthFirst h).length := by simpa using hi
  rw [List.getElem_map, copyHandle_getElem (List.getElem?_eq_getElem hlt)]
  simp

/-- A copy keeps the id of its root too. -/
theorem get?_copy (hx : s.Reaches h x) :
    let f := s.copyHandle (s.depthFirst h)
    (s.copy h).2.get? (f x) =
      some ((s.widget x).copyAs (s.widget x).id (s.mint.nth (f x - s.size)) f) := by
  have hid : (if x = h then (s.widget h).id else (s.widget x).id) = (s.widget x).id := by
    split
    · rename_i heq
      rw [heq]
    · rfl
  have hget := get?_copyHandle (s.widget h).id hx
  rw [hid] at hget
  exact hget

theorem id_widget_copy (hx : s.Reaches h x) :
    ((s.copy h).2.widget (s.copyHandle (s.depthFirst h) x)).id = (s.widget x).id := by
  rw [widget, get?_copy hx]
  rfl

theorem isContainer_copy (hcontainer : s.isContainer h = true) :
    (s.copy h).2.isContainer s.size = true := by
  have hroot := get?_copy (s := s) (h := h) (x := h) .refl
  simp only [s.copyHandle_root h] at hroot
  rw [isContainer_of_get? hroot, Widget.isContainer_copyAs]
  exact hcontainer

theorem flatten_copy (hcontainer : s.isContainer h = true) :
    (s.copy h).2.flatten s.size = (s.flatten h).map (s.copyHandle (s.depthFirst h)) := by
  rw [flatten_of_isContainer (isContainer_copy hcontainer), flatten_of_isContainer hcontainer]
  exact s.depthFirst_copyWithId h _

theorem find?_copy (hcontainer : s.isContainer h = true) (id : Int32) :
    (s.copy h).2.find? s.size id =
      (s.find? h id).map (s.copyHandle (s.depthFirst h)) := by
  have hwalk : (s.copy h).2.breadthFirst s.size = _ := s.breadthFirst_copyWithId h _
  rw [find?_eq, find?_eq, if_pos (isContainer_copy hcontainer), if_pos hcontainer, hwalk,
    List.find?_map]
  refine congrArg _ (List.find?_congr ?_)
  intro x hx
  rw [Function.comp_apply, id_widget_copy (reaches_of_mem_breadthFirst hx)]

/-- Walks and copies commute. From the copy of a container the flattening
has the new handles, from the first to the last, and each is the copy of
the widget at the same place in the flattening of the original. A search
by id comes to the copy of what it comes to in the original, or to nothing
in both. The copies are told by the bijection `f`: the copy of a widget is
the widget itself under another guid, its children renamed by `f`. -/
theorem walks_of_copy (hs : s.InRange) (hcontainer : s.isContainer h = true) :
    let r := s.copy h
    let held := {x | s.Reaches h x}
    ∃ f : Nat → Nat, Set.BijOn f held {y | s.size ≤ y ∧ y < r.2.size} ∧ f h = r.1 ∧
      (∀ x ∈ held, ∃ e, s.get? x = some e ∧
        r.2.get? (f x) = some { e with
          guid := s.mint.nth (f x - s.size)
          kind := e.kind.mapChildren (List.map f) }) ∧
      r.2.flatten r.1 = List.range' s.size held.ncard ∧
      r.2.flatten r.1 = (s.flatten h).map f ∧
      ∀ id, r.2.find? r.1 id = (s.find? h id).map f := by
  intro r held
  refine ⟨s.copyHandle (s.depthFirst h), s.bijOn_copyHandle h _, s.copyHandle_root h, ?_, ?_,
    flatten_copy hcontainer, find?_copy hcontainer⟩
  · intro x hx
    have hlt : x < s.size := hs.reaches (lt_size_of_isContainer hcontainer) hx
    exact ⟨s.widget x, get?_of_lt hlt, get?_copy hx⟩
  · have hflat := flatten_copy hcontainer
    rw [flatten_of_isContainer hcontainer, s.map_copyHandle_depthFirst h] at hflat
    rw [s.ncard_reaches h]
    exact hflat

/-- The copy of the circle is found in the order of its handles, and the
text field in it under the id that the original has. -/
theorem walks_of_copy_sharedCircle :
    let s := sharedCircle
    let r := s.copy 0
    let held := {x | s.Reaches 0 x}
    s.InRange ∧ s.isContainer 0 = true ∧ r.1 = 4 ∧ s.flatten 0 = [0, 1, 2] ∧
      r.2.flatten 4 = [4, 5, 6] ∧ s.find? 0 3 = some 2 ∧ r.2.find? 4 3 = some 6 ∧
      ∃ f : Nat → Nat, Set.BijOn f held {y | s.size ≤ y ∧ y < r.2.size} ∧
        [4, 5, 6] = List.range' 4 held.ncard ∧ [4, 5, 6] = [0, 1, 2].map f ∧
        some 6 = (some 2).map f ∧ ∀ id, r.2.find? 4 id = (s.find? 0 id).map f := by
  intro s r held
  have hflat : s.flatten 0 = [0, 1, 2] := by decide +kernel
  have hflat' : r.2.flatten 4 = [4, 5, 6] := by decide +kernel
  have hfind : s.find? 0 3 = some 2 := by decide +kernel
  have hfind' : r.2.find? 4 3 = some 6 := by decide +kernel
  obtain ⟨f, hf, -, -, hrange, hmap, hsearch⟩ := walks_of_copy inRange_sharedCircle (h := 0) rfl
  refine ⟨inRange_sharedCircle, rfl, rfl, hflat, hflat', hfind, hfind', f, hf, ?_, ?_, ?_, hsearch⟩
  · exact hflat'.symm.trans hrange
  · rw [← hflat]
    exact hflat'.symm.trans hmap
  · rw [← hfind]
    exact hfind'.symm.trans (hsearch 3)

end Scene

end UiRecovery
