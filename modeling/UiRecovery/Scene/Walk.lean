import UiRecovery.Scene.Basic

/-!
# Walks

The widgets that can be reached from a widget through children, in the order in which a walk finds
them. A widget is found once, when the first of its parents is expanded. The two walks differ only
in which of the widgets that wait is expanded next: the latest or the earliest.

A walk expands a widget at most once, and finds nothing but its start and children of the scene. So
it is over after one step for each of these, and `Scene.walkBound` steps are always enough.

How a walk comes by a widget is left open: it is given a `Look`. Most of the time that is
`Look.blank`, by which there is a blank widget behind every handle that was never issued.
-/

namespace UiRecovery

/-- Those of the handles that are not yet found, each once. -/
def fresh (found : List Nat) : List Nat → List Nat
  | [] => []
  | h :: hs => if h ∈ found then fresh found hs else h :: fresh (h :: found) hs

theorem mem_fresh {found hs : List Nat} {x : Nat} : x ∈ fresh found hs ↔ x ∈ hs ∧ x ∉ found := by
  induction hs generalizing found with
  | nil => simp [fresh]
  | cons h hs ih =>
    by_cases hf : h ∈ found
    · rw [fresh, if_pos hf, ih]
      constructor
      · rintro ⟨hm, hn⟩
        exact ⟨List.mem_cons_of_mem h hm, hn⟩
      · rintro ⟨hm, hn⟩
        rcases List.mem_cons.1 hm with rfl | hm
        · exact absurd hf hn
        · exact ⟨hm, hn⟩
    · rw [fresh, if_neg hf, List.mem_cons, ih]
      constructor
      · rintro (rfl | ⟨hm, hn⟩)
        · exact ⟨List.mem_cons_self, hf⟩
        · exact ⟨List.mem_cons_of_mem h hm, fun hx => hn (List.mem_cons_of_mem h hx)⟩
      · rintro ⟨hm, hn⟩
        by_cases e : x = h
        · exact Or.inl e
        · refine Or.inr ⟨(List.mem_cons.1 hm).resolve_left e, fun hx => ?_⟩
          exact (List.mem_cons.1 hx).elim e hn

theorem nodup_fresh (found hs : List Nat) : (fresh found hs).Nodup := by
  induction hs generalizing found with
  | nil => exact List.nodup_nil
  | cons h hs ih =>
    by_cases hf : h ∈ found
    · rw [fresh, if_pos hf]
      exact ih found
    · rw [fresh, if_neg hf]
      exact List.nodup_cons.2 ⟨fun hm => (mem_fresh.1 hm).2 List.mem_cons_self, ih _⟩

/-- Handles that are found last are expanded first. -/
def placeLast (new waiting : List Nat) : List Nat := new.reverse ++ waiting

/-- Handles that are found first are expanded first. -/
def placeFirst (new waiting : List Nat) : List Nat := waiting ++ new

/-- Expand waiting handles one by one. `place` puts the handles found by an expansion among those
that still wait. -/
def exploreM {m : Type → Type} [Monad m] (next : Nat → m (List Nat))
    (place : List Nat → List Nat → List Nat) : Nat → List Nat → List Nat → m (List Nat)
  | 0, found, _ => return found
  | _ + 1, found, [] => return found
  | n + 1, found, h :: waiting => do
    let new := fresh found (← next h)
    exploreM next place n (found ++ new) (place new waiting)

def explore (next : Nat → List Nat) (place : List Nat → List Nat → List Nat) (n : Nat)
    (found waiting : List Nat) : List Nat :=
  exploreM (m := Id) next place n found waiting

theorem explore_cons (next : Nat → List Nat) (place : List Nat → List Nat → List Nat) (n h : Nat)
    (found waiting : List Nat) :
    explore next place (n + 1) found (h :: waiting) =
      explore next place n (found ++ fresh found (next h)) (place (fresh found (next h)) waiting) :=
  rfl

namespace Scene

def walkBound (s : Scene) : Nat := s.attached.length + 1

section

variable {m : Type → Type} [Monad m] (look : Look m) (s : Scene)

def childrenM (h : Nat) : m (List Nat) := do
  return (← look s.widgets h).children

/-- The walk that expands the latest find first. -/
def depthFirstM (h : Nat) : m (List Nat) :=
  exploreM (s.childrenM look) placeLast s.walkBound [h] [h]

/-- The walk that expands the earliest find first. -/
def breadthFirstM (h : Nat) : m (List Nat) :=
  exploreM (s.childrenM look) placeFirst s.walkBound [h] [h]

/-- A container and all that it holds. A leaf holds nothing, not even itself. -/
def flattenM (h : Nat) : m (List Nat) := do
  if (← look s.widgets h).isContainer then s.depthFirstM look h else return []

/-- The widget with the given id that is nearest to a container, which may be the container
itself. -/
def findM (h : Nat) (id : Int32) : m (Option Nat) := do
  if (← look s.widgets h).isContainer then
    (← s.breadthFirstM look h).findM? fun x => return (← look s.widgets x).id = id
  else return none

end

def depthFirst (s : Scene) (h : Nat) : List Nat := s.depthFirstM (m := Id) Look.blank h

def breadthFirst (s : Scene) (h : Nat) : List Nat := s.breadthFirstM (m := Id) Look.blank h

def flatten (s : Scene) (h : Nat) : List Nat := s.flattenM (m := Id) Look.blank h

def find? (s : Scene) (h : Nat) (id : Int32) : Option Nat := s.findM (m := Id) Look.blank h id

theorem flatten_eq (s : Scene) (h : Nat) :
    s.flatten h = if s.isContainer h then s.depthFirst h else [] := rfl

theorem find?_eq (s : Scene) (h : Nat) (id : Int32) :
    s.find? h id =
      if s.isContainer h then (s.breadthFirst h).find? fun x => (s.widget x).id = id else none := by
  have hfind : (s.breadthFirst h).findM? (m := Id) (fun x => pure (decide ((s.widget x).id = id))) =
      (s.breadthFirst h).find? fun x => (s.widget x).id = id :=
    List.findM?_pure (m := Id) _ _
  rw [← hfind]
  rfl

end Scene

end UiRecovery
