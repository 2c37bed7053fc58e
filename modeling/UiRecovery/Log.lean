/-!
# Log lines

What a recovery reports while it runs. Lines are returned with the results; where they go is up to
the caller.
-/

namespace UiRecovery

inductive LogLevel where
  | debug
  | info
  | warn
deriving DecidableEq, Repr

structure LogLine where
  level : LogLevel
  text : String
deriving DecidableEq, Repr

def LogLine.debug (text : String) : LogLine := ⟨.debug, text⟩

def LogLine.info (text : String) : LogLine := ⟨.info, text⟩

def LogLine.warn (text : String) : LogLine := ⟨.warn, text⟩

end UiRecovery
