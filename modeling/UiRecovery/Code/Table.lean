import UiRecovery.Code.Program

/-!
# Tabulated answers

Code of which only the answers are known: each row holds what is to be answered about one
instruction. Unlike those of a program, the answers of a row may contradict one another.
-/

namespace UiRecovery

structure Row where
  containsCall : Bool := false
  callSignature : Option String := none
  isAssignment : Bool := false
  rhs : Option Rhs := none
  definedLocal : Option String := none
  receiver : Option String := none
  argLocals : List (Option String) := []
deriving DecidableEq, Repr, Inhabited

structure RowMethod where
  signature : String
  rows : List Row
deriving DecidableEq, Repr

structure Table where
  methods : List RowMethod
deriving DecidableEq, Repr, Inhabited

namespace Table

def row? (t : Table) (s : Site) : Option Row := do
  let m ← t.methods[s.method]?
  m.rows[s.index]?

def sites (t : Table) (method : Nat) : List Site :=
  match t.methods[method]? with
  | some m => (List.range m.rows.length).map fun i => ⟨method, i⟩
  | none => []

def allSites (t : Table) : List Site := (List.range t.methods.length).flatMap t.sites

/-- The site at `index`, if there is a row. -/
def at? (t : Table) (method index : Nat) : Option Site :=
  if (t.row? ⟨method, index⟩).isSome then some ⟨method, index⟩ else none

def query (t : Table) : Query Site where
  containsCall s := (t.row? s).any Row.containsCall
  callSignature s := (t.row? s).bind Row.callSignature
  isAssignment s := (t.row? s).any Row.isAssignment
  rhs s := (t.row? s).bind Row.rhs
  predecessor s := if s.index = 0 then none else t.at? s.method (s.index - 1)
  successor s := t.at? s.method (s.index + 1)
  methodOf s := ((t.methods[s.method]?).map RowMethod.signature).getD Program.unknownMethod
  definedLocal s := (t.row? s).bind Row.definedLocal
  receiver s := (t.row? s).bind Row.receiver
  argLocal s position := do
    let r ← t.row? s
    (r.argLocals[position]?).join
  describe := Described.describe

end Table

end UiRecovery
