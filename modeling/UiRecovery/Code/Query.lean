/-!
# Questions about code

What the recovery asks about the code under analysis: the call of an instruction, the shape of what
it assigns, its neighbours in the method, and the locals that it names. The answers come as one
record of functions over sites, so that any representation of code will do, and they need not agree
with one another.
-/

namespace UiRecovery

/-- The shape of the right-hand side of an assignment. -/
inductive Rhs where
  | new (className : String)
  | null
  | other
deriving DecidableEq, Repr

/-- Answers about the instructions at sites of type `σ`. -/
structure Query (σ : Type) where
  containsCall : σ → Bool
  /-- The signature of the called method. -/
  callSignature : σ → Option String
  isAssignment : σ → Bool
  rhs : σ → Option Rhs
  /-- The instruction before, in the same method. -/
  predecessor : σ → Option σ
  /-- The instruction after, in the same method. -/
  successor : σ → Option σ
  /-- The signature of the enclosing method. -/
  methodOf : σ → String
  /-- The local that the instruction assigns. -/
  definedLocal : σ → Option String
  /-- The local on which a method is called. -/
  receiver : σ → Option String
  /-- The local that is passed as the argument at a position. -/
  argLocal : σ → Nat → Option String
  /-- How a site is written in messages. -/
  describe : σ → String

/-- The same answers, from a source that names no locals. -/
def Query.withoutLocals {σ : Type} (q : Query σ) : Query σ :=
  { q with definedLocal := fun _ => none, receiver := fun _ => none, argLocal := fun _ _ => none }

end UiRecovery
