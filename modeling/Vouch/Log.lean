/-!
Events that the program logs: a level, a message and named details.
-/

namespace Vouch.Log

inductive Level where
  | debug
  | info
  | warn
  deriving DecidableEq, Repr

def Level.name : Level → String
  | .debug => "DEBUG"
  | .info => "INFO"
  | .warn => "WARN"

structure Event where
  level : Level
  message : String
  details : List (String × String)
  deriving DecidableEq, Repr

def debug (message : String) (details : List (String × String)) : Event :=
  ⟨.debug, message, details⟩

def info (message : String) (details : List (String × String)) : Event :=
  ⟨.info, message, details⟩

def warn (message : String) (details : List (String × String)) : Event :=
  ⟨.warn, message, details⟩

end Vouch.Log
