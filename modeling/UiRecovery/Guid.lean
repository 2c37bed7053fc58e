import UiRecovery.Json.Record

/-!
# Identities

Every recovered element has a guid, and two elements are the same only if their guids are. Guids
come from a mint that counts upwards from 1 and never hands out a number twice; widgets, menu items
and dialog buttons of one recovery share one mint. The id that a developer gave to an element is
another matter: such ids may collide.
-/

namespace UiRecovery

structure Guid where
  value : Nat
deriving DecidableEq, Repr, Inhabited

/-- How a guid is written in messages. -/
def Guid.display (g : Guid) : String := "#" ++ toString g.value

def Guid.toJson (g : Guid) : Json := .nat g.value

def Guid.ofJson? (j : Json) : Option Guid := j.nat64?.map Guid.mk

/-- A source of guids, known by how many it has handed out. The number of
guids is not bounded here; fewer than 2^64 - 1 are meant to be drawn in one
recovery, so that a guid fits into a 64-bit word. -/
structure Mint where
  issued : Nat := 0
deriving DecidableEq, Repr, Inhabited

namespace Mint

/-- The guid that will be handed out after `i` more. -/
def nth (m : Mint) (i : Nat) : Guid := ⟨m.issued + i + 1⟩

def next (m : Mint) : Guid := m.nth 0

/-- The mint after `n` more guids. -/
def advance (m : Mint) (n : Nat) : Mint := ⟨m.issued + n⟩

/-- Take the next guid. -/
def draw (m : Mint) : Guid × Mint := (m.next, m.advance 1)

@[simp]
theorem issued_advance (m : Mint) (n : Nat) : (m.advance n).issued = m.issued + n := rfl

theorem advance_advance (m : Mint) (k n : Nat) : (m.advance k).advance n = m.advance (k + n) :=
  congrArg Mint.mk (Nat.add_assoc ..)

end Mint

end UiRecovery
