import UiRecovery.Code.Program
import UiRecovery.Code.Value
import UiRecovery.Collection.OrderedMap

/-!
# Facts about values

An oracle that knows the literal arguments of a program, and what it has been told. What it has been
told about a value takes the place of the literal there, even if it was told that no value is
possible.
-/

namespace UiRecovery

structure Facts where
  program : Program
  told : OrderedMap (Site × ValueRef) (OrderedSet Value) := ∅
deriving Repr, Inhabited

namespace Facts

/-- Add `values` to what is told about a value at a site. -/
def tell (f : Facts) (s : Site) (ref : ValueRef) (values : List Value) : Facts :=
  { f with told := f.told.update (s, ref) fun known => (known.getD ∅).insertAll values }

/-- The literal argument of a call. -/
def literal? (p : Program) (s : Site) (position : Nat) : Option Value := do
  let c ← p.call? s
  match ← c.args[position]? with
  | .int i => return .int i
  | .str t => return .str t
  | _ => none

def oracle (f : Facts) : Oracle Site := fun ref s =>
  match f.told.get? (s, ref) with
  | some values => .known values
  | none =>
    match ref with
    | .arg position =>
      match literal? f.program s position with
      | some v => .known (OrderedSet.ofList [v])
      | none => .unknown
    | _ => .unknown

end Facts

end UiRecovery
