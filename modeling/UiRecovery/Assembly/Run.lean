import UiRecovery.Assembly.Perform

/-!
# Runs

A method is assembled site by site until its end, or until the first error. What was done up to
there stays, except for the dialogs that the method had begun. Of several methods those that fail
are skipped.
-/

namespace UiRecovery

/-- Counts for one assembled method. -/
structure MethodStats where
  method : String
  instructions : Nat
  elementsCreated : Nat
  selfCyclesSkipped : Nat
  unknownValues : Nat
deriving DecidableEq, Repr

/-- The sites of a method, and the component that it runs for. -/
structure MethodUnit (σ : Type) where
  sites : List σ
  origin : Origin

/-- What is left of an attempt to assemble a method. -/
structure MethodRun (σ : Type) where
  assembler : Assembler σ
  result : Except Error MethodStats
  log : List LogLine

/-- What is left of an attempt to assemble several methods. -/
structure UnitsRun (σ : Type) where
  assembler : Assembler σ
  /-- The counts of the methods that did not fail. -/
  stats : List MethodStats
  log : List LogLine

namespace Work

variable {σ : Type} [DecidableEq σ]

/-- Record the call at a site as used by the component. -/
def noteCall (t : Task σ) (s : σ) (w : Work σ) : Work σ :=
  if w.settings.trackCalls then
    match t.query.callSignature s with
    | some signature => { w with attribution := w.attribution.tagCall signature t.origin }
    | none => w
  else w

/-- Process one site. The call is recorded before anything can fail. -/
def stepM {m : Type → Type} [Monad m] (acc : Access σ m) (t : Task σ) (w : Work σ) (s : σ) :
    m (Work σ) :=
  (w.noteCall t s).followM acc t s

/-- The state in which work has ended, and the error that ended it before its time. -/
def outcome : Except (Error × Work σ) (Work σ) → Work σ × Option Error
  | .ok w => (w, none)
  | .error (e, w) => (w, some e)

def step (t : Task σ) (w : Work σ) (s : σ) : Work σ × Option Error :=
  outcome (w.stepM .running t s)

/-- Process sites up to the first that fails. -/
def run (t : Task σ) : List σ → Work σ → Work σ × Option Error
  | [], w => (w, none)
  | s :: rest, w =>
    match w.step t s with
    | (w, none) => run t rest w
    | (w, some e) => (w, some e)

end Work

namespace Assembler

variable {σ : Type}

/-- The signature of the method that sites belong to, empty if there are none. -/
def methodName (q : Query σ) : List σ → String
  | [] => ""
  | s :: _ => q.methodOf s

/-- The state at the start of a method. -/
def begin (a : Assembler σ) (t : Task σ) (sites : List σ) : Work σ :=
  { toAssembler := a
    log := [.debug ("Assembling " ++ methodName t.query sites ++ " for " ++ t.origin.display)] }

/-- The record of a method that was given up. -/
def skippedMethod (q : Query σ) (sites : List σ) (e : Error) : SkippedMethod where
  context :=
    { component := "tree_assembler"
      operation := "assemble_method"
      method := sites.head?.map q.methodOf
      details := if e.isContractFailure then some "contract failure" else none }
  reason := e.message

variable [DecidableEq σ]

/-- Assemble one method. -/
def assembleMethod (a : Assembler σ) (t : Task σ) (sites : List σ) : MethodRun σ :=
  match Work.run t sites (a.begin t sites) with
  | (w, some e) => { assembler := w.toAssembler, result := .error e, log := w.log }
  | (w, none) =>
    let stats : MethodStats :=
      { method := methodName t.query sites
        instructions := sites.length
        elementsCreated := w.scene.size - a.scene.size
        selfCyclesSkipped := w.selfCycles
        unknownValues := w.unknowns }
    let line := LogLine.debug ("Finished " ++ stats.method ++ ": " ++ toString stats.elementsCreated
      ++ " new elements, " ++ toString stats.unknownValues ++ " unknown values")
    { assembler :=
        { w.toAssembler with dialogs := w.dialogs ++ w.drafts.map fun d => (t.origin, d) }
      result := .ok stats
      log := w.log ++ [line] }

/-- Assemble one method after others. If it fails it is recorded as skipped. -/
def assembleNext (q : Query σ) (o : Oracle σ) (r : UnitsRun σ) (u : MethodUnit σ) : UnitsRun σ :=
  let m := r.assembler.assembleMethod ⟨q, o, u.origin⟩ u.sites
  match m.result with
  | .ok stats => { assembler := m.assembler, stats := r.stats ++ [stats], log := r.log ++ m.log }
  | .error e =>
    let skipped := skippedMethod q u.sites e
    { assembler := { m.assembler with skipped := m.assembler.skipped ++ [skipped] }
      stats := r.stats
      log := r.log ++ m.log ++ [.warn (skipped.context.display ++ ": " ++ skipped.reason)] }

/-- Assemble methods in order, and skip those that fail. -/
def assemble (a : Assembler σ) (q : Query σ) (o : Oracle σ) (units : List (MethodUnit σ)) :
    UnitsRun σ :=
  let r := units.foldl (assembleNext q o) { assembler := a, stats := [], log := [] }
  let line := LogLine.info ("Assembled " ++ toString r.stats.length ++ " of "
    ++ toString units.length ++ " methods, " ++ toString r.assembler.scene.size
    ++ " elements so far")
  { r with log := r.log ++ [line] }

end Assembler

end UiRecovery
