import Mathlib.Logic.Relation
import UiRecovery.Scene.Walk

/-!
# Reachability in a scene

`Scene.Reaches` is the reflexive and transitive closure of the child
relation. Both walks, and the search that is built on one of them, stay
inside it: `mem_explore` says so once for every order of expansion, and
`reaches_of_mem_depthFirst`, `reaches_of_find?` are its two uses.
-/

namespace UiRecovery

/-- A walk finds nothing but what it started with and what can be reached
from the handles that wait, whatever order `place` puts them in. -/
theorem mem_explore {next : Nat → List Nat}
    {place : List Nat → List Nat → List Nat}
    (hplace : ∀ {new waiting : List Nat} {x : Nat},
      x ∈ place new waiting → x ∈ new ∨ x ∈ waiting) :
    ∀ {n : Nat} {found waiting : List Nat} {x : Nat},
      x ∈ explore next place n found waiting →
      x ∈ found ∨ ∃ h ∈ waiting, Relation.ReflTransGen (fun a b => b ∈ next a) h x
  | 0, _, _, _, hx => Or.inl hx
  | _ + 1, _, [], _, hx => Or.inl hx
  | n + 1, found, h :: waiting, x, hx => by
      have hnew : ∀ {y : Nat}, y ∈ fresh found (next h) →
          Relation.ReflTransGen (fun a b => b ∈ next a) h y := fun hy =>
        Relation.ReflTransGen.single (mem_fresh.mp hy).1
      rcases mem_explore hplace (n := n) hx with hfound | ⟨y, hy, hyx⟩
      · rcases List.mem_append.mp hfound with hfound | hfresh
        · exact Or.inl hfound
        · exact Or.inr ⟨h, List.mem_cons_self, hnew hfresh⟩
      · rcases hplace hy with hfresh | hwait
        · exact Or.inr ⟨h, List.mem_cons_self, (hnew hfresh).trans hyx⟩
        · exact Or.inr ⟨y, List.mem_cons_of_mem h hwait, hyx⟩

namespace Scene

/-- `c` is `h` itself, or held by it at some depth. -/
def Reaches (s : Scene) : Nat → Nat → Prop :=
  Relation.ReflTransGen fun h c => c ∈ s.children h

theorem reaches_of_mem_depthFirst {s : Scene} {h x : Nat}
    (hx : x ∈ s.depthFirst h) : s.Reaches h x := by
  have hplace : ∀ {new waiting : List Nat} {y : Nat},
      y ∈ new.reverse ++ waiting → y ∈ new ∨ y ∈ waiting := fun hy => by
    rwa [List.mem_append, List.mem_reverse] at hy
  rcases mem_explore hplace hx with hroot | ⟨y, hy, hyx⟩
  · rw [List.mem_singleton.mp hroot]
    exact Relation.ReflTransGen.refl
  · rwa [List.mem_singleton.mp hy] at hyx

theorem reaches_of_mem_breadthFirst {s : Scene} {h x : Nat}
    (hx : x ∈ s.breadthFirst h) : s.Reaches h x := by
  have hplace : ∀ {new waiting : List Nat} {y : Nat},
      y ∈ waiting ++ new → y ∈ new ∨ y ∈ waiting := fun hy =>
    (List.mem_append.mp hy).symm
  rcases mem_explore hplace hx with hroot | ⟨y, hy, hyx⟩
  · rw [List.mem_singleton.mp hroot]
    exact Relation.ReflTransGen.refl
  · rwa [List.mem_singleton.mp hy] at hyx

/-- A search by id comes up with nothing from outside the container. -/
theorem reaches_of_find? {s : Scene} {h x : Nat} {id : Int32}
    (hx : s.find? h id = some x) : s.Reaches h x := by
  rw [find?_eq] at hx
  split at hx
  · exact reaches_of_mem_breadthFirst (List.mem_of_find?_eq_some hx)
  · cases hx

theorem id_of_find? {s : Scene} {h x : Nat} {id : Int32} (hx : s.find? h id = some x) :
    (s.widget x).id = id := by
  rw [find?_eq] at hx
  split at hx
  · simpa using List.find?_some hx
  · cases hx

end Scene

end UiRecovery
