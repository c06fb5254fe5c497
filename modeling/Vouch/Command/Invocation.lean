import Vouch.Command.Given
import Vouch.Keyserver.Config

/-!
Invocations: what the user wants done, read from the words of the command line.

The commands form a menu.  `help` is an entry of every menu, and the words after it name the entry
that it is about.
-/

namespace Vouch.Command

/-- What the user says about the keyserver, for every command that needs one. -/
structure Settings where
  config : Option String
  server : Option String
  /-- How long a request may take, in seconds. -/
  timeout : Option UInt64
  deriving DecidableEq, Repr

inductive Invocation where
  | analyse (result : String) (keys : Option String) (json : Bool)
  | search (query : String) (json : Bool) (settings : Settings)
  | fetch (query folder : String) (settings : Settings)
  | upload (key : String) (settings : Settings)
  | sync (snapshot folder : String) (concurrency : Option UInt64) (json : Bool)
    (settings : Settings)
  | probe (timeout : Option UInt64) (settings : Settings)
  | version
  deriving DecidableEq, Repr

def standardFolder : String := "."

def Settings.ofValues (values : Values) : Settings :=
  { config := values.text? .config
    server := values.text? .server
    timeout := (values.number? .timeout).map UInt64.ofNat }

def Verb.invocation (verb : Verb) (values : Values) : Invocation :=
  let document := (values.text? .document).getD ""
  let query := (values.text? .query).getD ""
  let folder := (values.text? .output).getD standardFolder
  let json := values.has .json
  let settings := Settings.ofValues values
  match verb with
  | .analyse => .analyse document (values.text? .keys) json
  | .search => .search query json settings
  | .fetch => .fetch query folder settings
  | .upload => .upload document settings
  | .sync =>
    .sync document folder ((values.number? .concurrency).map UInt64.ofNat) json settings
  | .probe => .probe ((values.number? .probeTimeout).map UInt64.ofNat) settings
  | .version => .version

inductive Menu where
  | command (verb : Verb)
  | choice (entries : List (String × Menu))

namespace Menu

def helpName : String := "help"

def entries : Menu → List (String × Menu)
  | .command _ => []
  | .choice entries => entries

def keyserver : Menu :=
  .choice
    [("search", .command .search), ("fetch", .command .fetch), ("upload", .command .upload),
      ("sync", .command .sync), ("probe", .command .probe), (helpName, .choice [])]

def all : Menu :=
  .choice
    [("analyse", .command .analyse), ("keyserver", keyserver), ("version", .command .version),
      (helpName, .choice [])]

def help : Menu → List String → Usage
  | _, [] => .help
  | menu, name :: rest =>
    match menu.entries.lookup name with
    | some entry => entry.help rest
    | none => .unknownCommand name

/-- What is said to a word where the name of an entry should be.  `version` tells that the program
itself is asked for its version there. -/
def refusal (entries : List (String × Menu)) (version : Bool) (word : String)
    (rest : List String) : Usage :=
  match Word.ofString word, rest with
  | .mark, [] => .noCommand
  | .mark, next :: _ =>
    if (entries.lookup next).isSome then .unknownArgument next else .unknownCommand next
  | .long name value, _ =>
    if name = helpName ∨ (version ∧ name = "version") then
      if value.isSome then .needlessValue word
      else if name = helpName then .help
      else .version
    else .unknownArgument word
  | .short ('h' :: _), _ => .help
  | .short ('V' :: _), _ => if version then .version else .unknownArgument word
  | .short _, _ => .unknownArgument word
  | .plain _, _ => .unknownCommand word

def read (env : Environment) (version : Bool) : Menu → List String → Except Usage Invocation
  | .command verb, words => do return verb.invocation (← Values.read env verb words)
  | .choice _, [] => .error .noCommand
  | .choice entries, word :: rest =>
    if word = helpName then .error ((Menu.choice entries).help rest)
    else
      match entries.lookup word with
      | some entry => entry.read env false rest
      | none => .error (refusal entries version word rest)

end Menu

def Invocation.read (env : Environment) (words : List String) : Except Usage Invocation :=
  Menu.all.read env true words

end Vouch.Command
