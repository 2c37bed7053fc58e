import UiRecovery.Code.Query
import UiRecovery.Error
import UiRecovery.Json.Reader
import UiRecovery.Json.Record
import UiRecovery.Json.Writer

/-!
# Programs

A program is a list of methods, each a list of instructions in three-address form: every call and
every construction is an instruction of its own, which may assign a local. An instruction is found
by its site, the position of its method and its own position in it. A program answers every question
of `Query`, also at sites that it does not have.
-/

namespace UiRecovery

inductive Operand where
  | localVar (name : String)
  | int (value : Int64)
  | str (value : String)
  | null
deriving DecidableEq, Repr

structure Call where
  signature : String
  receiver : Option String
  args : List Operand
deriving DecidableEq, Repr

inductive Expr where
  | call (call : Call)
  | new (className : String)
  | null
  | other
deriving DecidableEq, Repr

structure Instruction where
  /-- The local that is assigned. -/
  target : Option String
  expr : Expr
deriving DecidableEq, Repr

def Instruction.call? (i : Instruction) : Option Call :=
  match i.expr with
  | .call c => some c
  | _ => none

structure Method where
  signature : String
  instructions : List Instruction
deriving DecidableEq, Repr

structure Program where
  methods : List Method
deriving DecidableEq, Repr, Inhabited

/-- The position of an instruction in a program. -/
structure Site where
  method : Nat
  index : Nat
deriving DecidableEq, Repr, Inhabited

def Site.display (s : Site) : String :=
  "InstrSite \x7b method: " ++ toString s.method ++ ", index: " ++ toString s.index ++ " \x7d"

instance : Described Site := ⟨Site.display⟩

namespace Program

/-! ## Sites and instructions -/

/-- The position of the first method with the given signature. -/
def methodIndex? (p : Program) (signature : String) : Option Nat :=
  p.methods.findIdx? fun m => m.signature = signature

/-- The sites of a method in order, none if there is no such method. -/
def sites (p : Program) (method : Nat) : List Site :=
  match p.methods[method]? with
  | some m => (List.range m.instructions.length).map fun i => ⟨method, i⟩
  | none => []

/-- All sites, method by method. -/
def allSites (p : Program) : List Site := (List.range p.methods.length).flatMap p.sites

def instruction? (p : Program) (s : Site) : Option Instruction := do
  let m ← p.methods[s.method]?
  m.instructions[s.index]?

def call? (p : Program) (s : Site) : Option Call := (p.instruction? s).bind Instruction.call?

/-! ## Answers -/

/-- What `methodOf` answers outside the program. -/
def unknownMethod : String := "<unknown method>"

/-- The site before, if there is an instruction. -/
def before? (p : Program) (s : Site) : Option Site :=
  if s.index = 0 then none
  else
    let previous : Site := ⟨s.method, s.index - 1⟩
    if (p.instruction? previous).isSome then some previous else none

/-- The site after, if there is an instruction. -/
def after? (p : Program) (s : Site) : Option Site :=
  let next : Site := ⟨s.method, s.index + 1⟩
  if (p.instruction? next).isSome then some next else none

/-- Only an assignment has a right-hand side. -/
def rhs? (p : Program) (s : Site) : Option Rhs := do
  let i ← p.instruction? s
  let _ ← i.target
  match i.expr with
  | .new className => return .new className
  | .null => return .null
  | .call _ => return .other
  | .other => return .other

def argLocal? (p : Program) (s : Site) (position : Nat) : Option String := do
  let c ← p.call? s
  match ← c.args[position]? with
  | .localVar name => return name
  | _ => none

def query (p : Program) : Query Site where
  containsCall s := (p.call? s).isSome
  callSignature s := (p.call? s).map Call.signature
  isAssignment s := ((p.instruction? s).bind Instruction.target).isSome
  rhs := p.rhs?
  predecessor := p.before?
  successor := p.after?
  methodOf s := ((p.methods[s.method]?).map Method.signature).getD unknownMethod
  definedLocal s := (p.instruction? s).bind Instruction.target
  receiver s := (p.call? s).bind Call.receiver
  argLocal := p.argLocal?
  describe := Described.describe

end Program

/-! ## Text -/

namespace Operand

def toJson : Operand → Json
  | .localVar name => .variant "Local" (.text name)
  | .int i => .variant "Int" (.int64 i)
  | .str s => .variant "Str" (.text s)
  | .null => .text "Null"

def ofJson? (j : Json) : Option Operand :=
  match j.variant? with
  | some ("Local", some payload) => payload.text?.map .localVar
  | some ("Int", some payload) => payload.int64?.map .int
  | some ("Str", some payload) => payload.text?.map .str
  | _ => if j.unitVariant? = some "Null" then some .null else none

end Operand

namespace Call

def toJson (c : Call) : Json :=
  .object
    [("subsignature", .text c.signature), ("receiver", .optional .text c.receiver),
      ("args", .list Operand.toJson c.args)]

def ofJson? (j : Json) : Option Call := do
  match ← j.record? ["subsignature", "receiver", "args"] with
  | [signature, receiver, args] =>
    return ⟨← Json.required? Json.text? signature, ← Json.absentOr? Json.text? receiver,
      ← Json.required? (Json.list? Operand.ofJson?) args⟩
  | _ => none

end Call

namespace Expr

def toJson : Expr → Json
  | .call c => .variant "Call" c.toJson
  | .new className => .variant "New" (.text className)
  | .null => .text "Null"
  | .other => .text "Other"

def ofJson? (j : Json) : Option Expr :=
  match j.variant? with
  | some ("Call", some payload) => (Call.ofJson? payload).map .call
  | some ("New", some payload) => payload.text?.map .new
  | _ =>
    if j.unitVariant? = some "Null" then some .null
    else if j.unitVariant? = some "Other" then some .other
    else none

end Expr

namespace Instruction

def toJson (i : Instruction) : Json :=
  .object [("target", .optional .text i.target), ("expr", i.expr.toJson)]

def ofJson? (j : Json) : Option Instruction := do
  match ← j.record? ["target", "expr"] with
  | [target, expr] =>
    return ⟨← Json.absentOr? Json.text? target, ← Json.required? Expr.ofJson? expr⟩
  | _ => none

end Instruction

namespace Method

def toJson (m : Method) : Json :=
  .object
    [("signature", .text m.signature), ("instructions", .list Instruction.toJson m.instructions)]

def ofJson? (j : Json) : Option Method := do
  match ← j.record? ["signature", "instructions"] with
  | [signature, instructions] =>
    return ⟨← Json.required? Json.text? signature,
      ← Json.required? (Json.list? Instruction.ofJson?) instructions⟩
  | _ => none

end Method

namespace Site

def toJson (s : Site) : Json := .object [("method", .nat s.method), ("index", .nat s.index)]

def ofJson? (j : Json) : Option Site := do
  match ← j.record? ["method", "index"] with
  | [method, index] =>
    return ⟨← Json.required? Json.nat64? method, ← Json.required? Json.nat64? index⟩
  | _ => none

end Site

namespace Program

def toJson (p : Program) : Json := .object [("methods", .list Method.toJson p.methods)]

def ofJson? (j : Json) : Option Program := do
  match ← j.record? ["methods"] with
  | [methods] => return ⟨← Json.required? (Json.list? Method.ofJson?) methods⟩
  | _ => none

def render (p : Program) : String := p.toJson.render

def ofText? (text : String) : Option Program := (Json.parse? text).bind ofJson?

end Program

end UiRecovery
