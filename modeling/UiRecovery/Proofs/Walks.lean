import Mathlib.Data.List.Nodup
import Mathlib.Data.List.Perm.Subperm
import UiRecovery.Proofs.Loops
import UiRecovery.Proofs.Reach

/-!
# Walks find all there is

`Reach` has that a walk finds nothing but what can be reached. Here is the
converse, and what follows from it:

- **the budget is enough** (`Exploring.explore_eq`): a walk that is given
  more steps than its budget comes to the same end, so what a walk finds
  does not depend on how large the rest of the scene is;
- **completeness** (`mem_depthFirst`): a walk finds exactly what can be
  reached, each widget once;
- **renaming** (`explore_map`): a walk commutes with a renaming that is
  injective on the handles that it can come to;
- **looking** (`exploreM_eq`): how a walk looks behind handles makes no
  difference, if it is shown what can be reached.

All of it is said of `explore` first, for every order of expansion that
drops no handle and invents none.
-/

namespace UiRecovery

/-! ## Fresh handles -/

/-- What is found matters as a set only. -/
theorem fresh_congr : ∀ {found found' : List Nat}, (∀ x, x ∈ found ↔ x ∈ found') →
    ∀ hs : List Nat, fresh found hs = fresh found' hs
  | _, _, _, [] => rfl
  | found, found', hsame, h :: hs => by
      have hsame' : ∀ x, x ∈ h :: found ↔ x ∈ h :: found' := by
        intro x
        simp only [List.mem_cons, hsame x]
      rw [fresh, fresh, fresh_congr hsame hs, fresh_congr hsame' hs]
      simp only [hsame h]

theorem fresh_append : ∀ (found hs hs' : List Nat),
    fresh found (hs ++ hs') = fresh found hs ++ fresh (found ++ fresh found hs) hs'
  | found, [], hs' => by simp [fresh]
  | found, h :: hs, hs' => by
      by_cases hh : h ∈ found
      · simp only [List.cons_append, fresh, if_pos hh]
        exact fresh_append found hs hs'
      · have hsame : ∀ x, x ∈ (h :: found) ++ fresh (h :: found) hs ↔
            x ∈ found ++ h :: fresh (h :: found) hs := by
          intro x
          simp only [List.mem_append, List.mem_cons]
          tauto
        simp only [List.cons_append, fresh, if_neg hh]
        rw [fresh_append (h :: found) hs hs', fresh_congr hsame]

/-! ## The end of a walk -/

/-- A walk in progress: what is found lies in `all`, what does not wait
has been expanded, and the remaining steps suffice for what may still be
found. -/
structure Exploring (next : Nat → List Nat) (all : List Nat) (steps : Nat)
    (found waiting : List Nat) : Prop where
  nodup : found.Nodup
  found_subset : found ⊆ all
  expanded : ∀ x ∈ found, x ∉ waiting → next x ⊆ found
  budget : all.length + waiting.length ≤ steps + found.length

namespace Exploring

variable {next : Nat → List Nat} {all : List Nat}
  {place : List Nat → List Nat → List Nat} {steps h : Nat} {found waiting : List Nat}

/-- A walk without steps left has nothing left to expand. -/
theorem waiting_eq_nil (hw : Exploring next all 0 found waiting) : waiting = [] := by
  have hle : found.length ≤ all.length := (hw.nodup.subperm hw.found_subset).length_le
  have hbudget := hw.budget
  exact List.length_eq_zero_iff.mp (by omega)

theorem step (hnext : ∀ x, next x ⊆ all)
    (hplace : ∀ new waiting, (place new waiting).Perm (new ++ waiting))
    (hw : Exploring next all (steps + 1) found (h :: waiting)) :
    Exploring next all steps (found ++ fresh found (next h))
      (place (fresh found (next h)) waiting) where
  nodup := by
    refine List.nodup_append.mpr ⟨hw.nodup, nodup_fresh found (next h), ?_⟩
    rintro x hx y hy rfl
    exact (mem_fresh.mp hy).2 hx
  found_subset := by
    intro x hx
    rcases List.mem_append.mp hx with hx | hx
    · exact hw.found_subset hx
    · exact hnext h (mem_fresh.mp hx).1
  expanded := by
    intro x hx hwait y hy
    rw [(hplace _ _).mem_iff, List.mem_append, not_or] at hwait
    have hfound : x ∈ found := (List.mem_append.mp hx).resolve_right hwait.1
    by_cases hxh : x = h
    · subst hxh
      by_cases hyfound : y ∈ found
      · exact List.mem_append_left _ hyfound
      · exact List.mem_append_right _ (mem_fresh.mpr ⟨hy, hyfound⟩)
    · have hold : x ∉ h :: waiting := fun hmem =>
        hwait.2 ((List.mem_cons.mp hmem).resolve_left hxh)
      exact List.mem_append_left _ (hw.expanded x hfound hold hy)
  budget := by
    have hbudget := hw.budget
    rw [(hplace _ _).length_eq]
    simp only [List.length_append, List.length_cons] at hbudget ⊢
    omega

/-- Steps beyond the budget change nothing. -/
theorem explore_eq (hnext : ∀ x, next x ⊆ all)
    (hplace : ∀ new waiting, (place new waiting).Perm (new ++ waiting)) :
    ∀ {steps : Nat} {found waiting : List Nat},
      Exploring next all steps found waiting → ∀ {n : Nat}, steps ≤ n →
      explore next place n found waiting = explore next place steps found waiting
  | 0, found, waiting, hw, n, _ => by
      obtain rfl := hw.waiting_eq_nil
      cases n <;> rfl
  | steps + 1, found, [], _, n, _ => by
      cases n <;> rfl
  | steps + 1, found, h :: waiting, hw, n, hn => by
      obtain ⟨m, rfl⟩ : ∃ m, n = m + 1 := ⟨n - 1, by omega⟩
      exact explore_eq hnext hplace (hw.step hnext hplace) (by omega)

/-- A walk that is over has found what it began with, and whatever the
widgets that it found hold. -/
theorem explore_closed (hnext : ∀ x, next x ⊆ all)
    (hplace : ∀ new waiting, (place new waiting).Perm (new ++ waiting)) :
    ∀ {steps : Nat} {found waiting : List Nat},
      Exploring next all steps found waiting →
      (explore next place steps found waiting).Nodup ∧
        found <+: explore next place steps found waiting ∧
        ∀ x ∈ explore next place steps found waiting,
          next x ⊆ explore next place steps found waiting
  | 0, found, waiting, hw => by
      obtain rfl := hw.waiting_eq_nil
      exact ⟨hw.nodup, List.prefix_rfl, fun x hx => hw.expanded x hx List.not_mem_nil⟩
  | steps + 1, found, [], hw =>
      ⟨hw.nodup, List.prefix_rfl, fun x hx => hw.expanded x hx List.not_mem_nil⟩
  | steps + 1, found, h :: waiting, hw => by
      obtain ⟨hnodup, hfound, hclosed⟩ :=
        explore_closed hnext hplace (hw.step hnext hplace)
      exact ⟨hnodup, (List.prefix_append ..).trans hfound, hclosed⟩

end Exploring

/-! ## Walks under a renaming -/

theorem fresh_map {rename : Nat → Nat} {P : Nat → Prop}
    (hrename : ∀ x y, P x → P y → rename x = rename y → x = y) :
    ∀ found hs : List Nat, (∀ x ∈ found, P x) → (∀ x ∈ hs, P x) →
      fresh (found.map rename) (hs.map rename) = (fresh found hs).map rename
  | _, [], _, _ => rfl
  | found, h :: hs, hfound, hhs => by
      have hh : P h := hhs h List.mem_cons_self
      have hrest : ∀ x ∈ hs, P x := fun x hx => hhs x (List.mem_cons_of_mem h hx)
      have hmem : rename h ∈ found.map rename ↔ h ∈ found := by
        refine ⟨fun hmap => ?_, List.mem_map_of_mem⟩
        obtain ⟨x, hx, heq⟩ := List.mem_map.mp hmap
        rwa [← hrename x h (hfound x hx) hh heq]
      by_cases hin : h ∈ found
      · rw [List.map_cons, fresh, if_pos (hmem.mpr hin), fresh, if_pos hin]
        exact fresh_map hrename found hs hfound hrest
      · rw [List.map_cons, fresh, if_neg (mt hmem.mp hin), fresh, if_neg hin, List.map_cons]
        refine congrArg _ (fresh_map hrename (h :: found) hs ?_ hrest)
        simpa using ⟨hh, hfound⟩

/-- A walk over renamed handles finds the renamed handles. Only the part of
the graph matters that the walk can come to: `P` is closed under `next`, and
no two handles of it have one new name. -/
theorem explore_map {next next' : Nat → List Nat} {rename : Nat → Nat} {P : Nat → Prop}
    {place : List Nat → List Nat → List Nat}
    (hrename : ∀ x y, P x → P y → rename x = rename y → x = y)
    (hnext : ∀ x, P x → next' (rename x) = (next x).map rename)
    (hclosed : ∀ x, P x → ∀ y ∈ next x, P y)
    (hplace : ∀ new waiting, (place new waiting).Perm (new ++ waiting))
    (hnatural : ∀ new waiting,
      place (new.map rename) (waiting.map rename) = (place new waiting).map rename) :
    ∀ (n : Nat) (found waiting : List Nat), (∀ x ∈ found, P x) → (∀ x ∈ waiting, P x) →
      explore next' place n (found.map rename) (waiting.map rename) =
        (explore next place n found waiting).map rename
  | 0, _, _, _, _ => rfl
  | _ + 1, _, [], _, _ => rfl
  | n + 1, found, h :: waiting, hfound, hwaiting => by
      have hh : P h := hwaiting h List.mem_cons_self
      have hnew : ∀ x ∈ fresh found (next h), P x := fun x hx =>
        hclosed h hh x (mem_fresh.mp hx).1
      have hfresh : fresh (found.map rename) (next' (rename h)) =
          (fresh found (next h)).map rename := by
        rw [hnext h hh, fresh_map hrename found (next h) hfound (hclosed h hh)]
      rw [List.map_cons, explore_cons, explore_cons, hfresh, hnatural, ← List.map_append]
      refine explore_map hrename hnext hclosed hplace hnatural n _ _ ?_ ?_
      · intro x hx
        rcases List.mem_append.mp hx with hx | hx
        · exact hfound x hx
        · exact hnew x hx
      · intro x hx
        rcases List.mem_append.mp ((hplace _ _).mem_iff.mp hx) with hx | hx
        · exact hnew x hx
        · exact hwaiting x (List.mem_cons_of_mem h hx)

/-! ## The walks of a scene -/

theorem placeLast_perm (new waiting : List Nat) :
    (placeLast new waiting).Perm (new ++ waiting) :=
  new.reverse_perm.append_right waiting

theorem placeFirst_perm (new waiting : List Nat) :
    (placeFirst new waiting).Perm (new ++ waiting) :=
  List.perm_append_comm

theorem placeLast_map (rename : Nat → Nat) (new waiting : List Nat) :
    placeLast (new.map rename) (waiting.map rename) = (placeLast new waiting).map rename := by
  simp [placeLast]

theorem placeFirst_map (rename : Nat → Nat) (new waiting : List Nat) :
    placeFirst (new.map rename) (waiting.map rename) = (placeFirst new waiting).map rename := by
  simp [placeFirst]

namespace Scene

theorem mem_children {s : Scene} {h c : Nat} :
    c ∈ s.children h ↔ ∃ e, s.get? h = some e ∧ c ∈ e.children := by
  unfold children widget
  cases s.get? h with
  | none => simp
  | some e => simp

theorem children_modify (s : Scene) (h : Nat) {f : Widget → Widget}
    (hf : ∀ e : Widget, (f e).children = e.children) (x : Nat) :
    (s.modify h f).children x = s.children x := by
  unfold children widget
  rw [get?_modify]
  cases s.get? x with
  | none => simp
  | some e => split <;> simp [hf]

theorem lt_size_of_mem_children {s : Scene} {h c : Nat} (hc : c ∈ s.children h) : h < s.size := by
  obtain ⟨e, he, -⟩ := mem_children.mp hc
  exact lt_size_of_get? he

theorem children_subset_attached (s : Scene) (h : Nat) : s.children h ⊆ s.attached := by
  intro c hc
  obtain ⟨e, he, hce⟩ := mem_children.mp hc
  exact List.mem_flatMap.mpr ⟨e, List.mem_of_getElem? he, hce⟩

/-- The bound on the steps of a walk is a budget for it. -/
theorem exploring (s : Scene) (h : Nat) :
    Exploring s.children (h :: s.attached) s.walkBound [h] [h] where
  nodup := List.nodup_singleton h
  found_subset := by simp
  expanded x hx hwait := absurd hx hwait
  budget := by simp [walkBound]

theorem children_subset_cons (s : Scene) (h x : Nat) : s.children x ⊆ h :: s.attached :=
  fun _ hc => List.mem_cons_of_mem h (s.children_subset_attached x hc)

variable {s : Scene} {h x : Nat}

theorem depthFirst_eq {n : Nat} (hn : s.walkBound ≤ n) :
    s.depthFirst h = explore s.children placeLast n [h] [h] :=
  ((s.exploring h).explore_eq (s.children_subset_cons h) placeLast_perm hn).symm

theorem breadthFirst_eq {n : Nat} (hn : s.walkBound ≤ n) :
    s.breadthFirst h = explore s.children placeFirst n [h] [h] :=
  ((s.exploring h).explore_eq (s.children_subset_cons h) placeFirst_perm hn).symm

theorem nodup_depthFirst (s : Scene) (h : Nat) : (s.depthFirst h).Nodup :=
  ((s.exploring h).explore_closed (s.children_subset_cons h) placeLast_perm).1

/-- A walk begins with its start. -/
theorem prefix_depthFirst (s : Scene) (h : Nat) : [h] <+: s.depthFirst h :=
  ((s.exploring h).explore_closed (s.children_subset_cons h) placeLast_perm).2.1

/-- What holds a set's start and is closed under children holds all that
can be reached. -/
theorem Reaches.mem {found : List Nat} (hx : s.Reaches h x) (hh : h ∈ found)
    (hclosed : ∀ y ∈ found, s.children y ⊆ found) : x ∈ found := by
  induction hx with
  | refl => exact hh
  | tail _ hc ih => exact hclosed _ ih hc

/-- The walk finds exactly what a widget holds. -/
theorem mem_depthFirst : x ∈ s.depthFirst h ↔ s.Reaches h x := by
  refine ⟨reaches_of_mem_depthFirst, fun hx => ?_⟩
  obtain ⟨-, hfound, hclosed⟩ :=
    (s.exploring h).explore_closed (s.children_subset_cons h) placeLast_perm
  exact hx.mem (hfound.subset List.mem_cons_self) hclosed

end Scene

/-! ## Ways to look -/

section

variable {m : Type → Type} [Monad m] [LawfulMonad m]

theorem exploreM_eq {nextM : Nat → m (List Nat)} {next : Nat → List Nat}
    {place : List Nat → List Nat → List Nat} {P : Nat → Prop}
    (hplace : ∀ new waiting, (place new waiting).Perm (new ++ waiting))
    (hnext : ∀ x, P x → nextM x = pure (next x)) (hclosed : ∀ x, P x → ∀ y ∈ next x, P y) :
    ∀ (n : Nat) (found : List Nat) {waiting : List Nat}, (∀ x ∈ waiting, P x) →
      exploreM nextM place n found waiting = pure (explore next place n found waiting)
  | 0, _, _, _ => rfl
  | _ + 1, _, [], _ => rfl
  | n + 1, found, h :: waiting, hwaiting => by
      rw [exploreM, hnext h (hwaiting h List.mem_cons_self), pure_bind, explore_cons]
      refine exploreM_eq hplace hnext hclosed n _ fun x hx => ?_
      rcases List.mem_append.mp ((hplace _ _).mem_iff.mp hx) with hnew | hwait
      · exact hclosed h (hwaiting h List.mem_cons_self) x (mem_fresh.mp hnew).1
      · exact hwaiting x (List.mem_cons_of_mem h hwait)

namespace Scene

variable {look : Look m} {s : Scene} {h : Nat}

theorem childrenM_eq (hlook : look s.widgets h = pure (s.widget h)) :
    s.childrenM look h = pure (s.children h) := by
  unfold childrenM
  rw [hlook, pure_bind]
  rfl

variable (hlook : ∀ x, s.Reaches h x → look s.widgets x = pure (s.widget x))

include hlook

theorem exploreM_childrenM_eq {place : List Nat → List Nat → List Nat}
    (hplace : ∀ new waiting, (place new waiting).Perm (new ++ waiting)) :
    exploreM (s.childrenM look) place s.walkBound [h] [h] =
      pure (explore s.children place s.walkBound [h] [h]) := by
  refine exploreM_eq hplace (fun x hx => childrenM_eq (hlook x hx)) (fun x hx y hy => hx.tail hy)
    _ _ fun x hx => ?_
  rw [List.mem_singleton.mp hx]
  exact .refl

theorem depthFirstM_eq : s.depthFirstM look h = pure (s.depthFirst h) :=
  exploreM_childrenM_eq hlook placeLast_perm

theorem breadthFirstM_eq : s.breadthFirstM look h = pure (s.breadthFirst h) :=
  exploreM_childrenM_eq hlook placeFirst_perm

theorem flattenM_eq : s.flattenM look h = pure (s.flatten h) := by
  unfold flattenM
  rw [hlook h .refl, pure_bind, depthFirstM_eq hlook, flatten_eq]
  unfold isContainer
  split <;> rfl

theorem findM_eq (id : Int32) : s.findM look h id = pure (s.find? h id) := by
  have hid : ∀ x ∈ s.breadthFirst h, (do return decide ((← look s.widgets x).id = id)) =
      (pure (decide ((s.widget x).id = id)) : m Bool) := fun x hx => by
    rw [hlook x (reaches_of_mem_breadthFirst hx), pure_bind]
  unfold findM
  rw [hlook h .refl, pure_bind, breadthFirstM_eq hlook, find?_eq]
  unfold isContainer
  split
  · rw [pure_bind]
    exact findM?_eq_pure hid
  · rfl

end Scene

end

end UiRecovery
