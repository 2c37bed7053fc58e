import UiRecovery.Guid
import UiRecovery.Text.Quoted

/-!
# Errors

Why a step of a recovery was refused, and in which context. An error that breaks a contract of the
code under analysis costs one method; every other error concerns the caller's own input.
-/

namespace UiRecovery

inductive Error where
  /-- One of two paired instructions does not have the shape that the pair needs. -/
  | malformedIdiom (site method reason : String)
  /-- An element was to become its own child. -/
  | selfCycle (guid : Guid) (id : Int32)
  /-- A handle that the scene has not issued. -/
  | unknownWidget (index count : Nat)
  | settings (message : String)
  | file (message : String)
  /-- The text is no JSON, or no JSON of the expected shape. -/
  | unreadable
deriving DecidableEq, Repr

/-- Things that a message can name exactly: instructions, or text that stands for them. -/
class Described (σ : Type) where
  describe : σ → String

instance : Described String := ⟨Text.quoted⟩

namespace Error

/-- The error of an idiom that is malformed at the given place. -/
def malformed {σ : Type} [Described σ] (site : σ) (method reason : String) : Error :=
  .malformedIdiom (Described.describe site) method reason

def message : Error → String
  | .malformedIdiom site method reason =>
    "Malformed idiom at " ++ site ++ " in " ++ method ++ ": " ++ reason
  | .selfCycle guid id =>
    "Recursive child: element " ++ guid.display ++ " (id " ++ toString id.toInt
      ++ ") cannot be attached to itself"
  | .unknownWidget index count =>
    "Unknown node " ++ toString index ++ ": the model holds " ++ toString count ++ " elements"
  | .settings message => "Configuration error: " ++ message
  | .file message => "I/O error: " ++ message
  | .unreadable => "Serialization error"

/-- Whether the code under analysis, and not the caller, is at fault. -/
def isContractFailure : Error → Bool
  | .malformedIdiom _ _ _ => true
  | .selfCycle _ _ => true
  | _ => false

end Error

/-- Where a failure happened. -/
structure FailureContext where
  component : String
  operation : String
  method : Option String := none
  details : Option String := none
deriving DecidableEq, Repr

def FailureContext.display (c : FailureContext) : String :=
  let method := match c.method with
    | some m => " for method " ++ m
    | none => ""
  let details := match c.details with
    | some d => " (" ++ d ++ ")"
    | none => ""
  "In " ++ c.component ++ " while " ++ c.operation ++ method ++ details

end UiRecovery
