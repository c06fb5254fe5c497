import Vouch.Command.Parameter

/-!
Why the words that the program was given do not tell it what to do.
-/

namespace Vouch.Command

inductive Usage where
  | unknownCommand (word : String)
  | noCommand
  | unknownArgument (word : String)
  | notGiven (parameter : Parameter)
  | noValue (parameter : Parameter)
  | notANumber (parameter : Parameter) (value : String)
  | givenTwice (parameter : Parameter)
  | needlessValue (word : String)
  | help
  | version
  deriving DecidableEq, Repr

namespace Usage

def message : Usage → String
  | .unknownCommand word => "unrecognized subcommand '" ++ word ++ "'"
  | .noCommand => "a subcommand is required"
  | .unknownArgument word => "unexpected argument '" ++ word ++ "'"
  | .notGiven parameter => "required argument was not provided: " ++ parameter.shown
  | .noValue parameter => "a value is required for '" ++ parameter.shown ++ "'"
  | .notANumber parameter value =>
    "invalid value '" ++ value ++ "' for '" ++ parameter.shown ++ "'"
  | .givenTwice parameter =>
    "the argument '" ++ parameter.shown ++ "' cannot be used multiple times"
  | .needlessValue word => "unexpected value in '" ++ word ++ "'"
  | .help => "help was asked for"
  | .version => "the version was asked for"

def isQuestion : Usage → Bool
  | .help | .version => true
  | _ => false

def exitCode (usage : Usage) : Nat :=
  if usage.isQuestion then 0 else 2

end Usage

end Vouch.Command
