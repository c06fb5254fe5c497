import Vouch.Command.Usage

/-!
What is given to one command: the values of its parameters, read from words.

A value may follow the name of its parameter as a word of its own, so that a parameter can be left
pending.  It is settled when the next parameter comes or the words end; until then nothing is
said about its value.
-/

namespace Vouch.Command

inductive Word where
  | mark
  | long (name : String) (value : Option String)
  | short (letters : List Char)
  | plain (text : String)
  deriving DecidableEq, Repr

def Word.ofString (word : String) : Word :=
  match word.toList with
  | ['-', '-'] => .mark
  | '-' :: '-' :: rest =>
    .long (String.ofList (rest.takeWhile (· != '=')))
      (match rest.dropWhile (· != '=') with
        | [] => none
        | _ :: value => some (String.ofList value))
  | '-' :: c :: rest => .short (c :: rest)
  | _ => .plain word

abbrev Values := List (Parameter × String)

namespace Values

def text? (values : Values) (parameter : Parameter) : Option String :=
  values.lookup parameter

def number? (values : Values) (parameter : Parameter) : Option Nat :=
  (values.text? parameter).bind Parameter.number?

def has (values : Values) (parameter : Parameter) : Bool :=
  (values.text? parameter).isSome

def settle (values : Values) (parameter : Parameter) (value : String) : Except Usage Values :=
  if values.has parameter then .error (.givenTwice parameter)
  else
    match parameter.kind with
    | .flag | .text => .ok ((parameter, value) :: values)
    | .path =>
      if value.isEmpty then .error (.noValue parameter) else .ok ((parameter, value) :: values)
    | .number =>
      match Parameter.number? value with
      | some _ => .ok ((parameter, value) :: values)
      | none => .error (.notANumber parameter value)

end Values

structure Given where
  settled : Values
  pending : Option (Parameter × Option String)
  deriving DecidableEq, Repr

namespace Given

def nothing : Given := ⟨[], none⟩

def settle (given : Given) : Except Usage Given :=
  match given.pending with
  | none => .ok given
  | some (parameter, none) => .error (.noValue parameter)
  | some (parameter, some value) => do return ⟨← given.settled.settle parameter value, none⟩

def mentions (given : Given) (parameter : Parameter) : Bool :=
  given.settled.has parameter || (given.pending.map (·.1)) == some parameter

def name (given : Given) (word : String) (parameter : Parameter) (value : Option String) :
    Except Usage Given :=
  match parameter.kind, value with
  | .flag, some _ => .error (.needlessValue word)
  | .flag, none => do
    let given ← given.settle
    if parameter = .help then throw .help
    return { given with settled := ← given.settled.settle parameter "" }
  | _, none => do return { ← given.settle with pending := some (parameter, none) }
  | _, some value => do
    let given ← given.settle
    return { given with settled := ← given.settled.settle parameter value }

/-- More parameters, named by their letters in a word.  What follows the letter of a parameter with
a value is its value, perhaps after `=`. -/
def letters (verb : Verb) (word : String) : Given → List Char → Except Usage Given
  | given, [] => .ok given
  | given, c :: rest =>
    match verb.withShortName? c with
    | none => .error (.unknownArgument word)
    | some parameter =>
      if parameter.kind = .flag then do
        letters verb word (← given.name word parameter none) rest
      else
        match rest with
        | [] => given.name word parameter none
        | '=' :: value | value => given.name word parameter (some (String.ofList value))

def place (verb : Verb) (given : Given) (word : String) : Except Usage Given :=
  match verb.subject? with
  | none => .error (.unknownArgument word)
  | some parameter =>
    if given.mentions parameter then .error (.unknownArgument word)
    else do return { ← given.settle with pending := some (parameter, some word) }

def plain (verb : Verb) (given : Given) (word : String) : Except Usage Given :=
  match given.pending with
  | some (parameter, none) => .ok { given with pending := some (parameter, some word) }
  | _ => given.place verb word

def read (verb : Verb) : (marked : Bool) → Given → List String → Except Usage Given
  | _, given, [] => given.settle
  | true, given, word :: rest => do read verb true (← given.place verb word) rest
  | false, given, word :: rest =>
    match Word.ofString word with
    | .mark => read verb true given rest
    | .long name value =>
      match verb.withLongName? name with
      | none => .error (.unknownArgument word)
      | some parameter => do read verb false (← given.name word parameter value) rest
    | .short letters => do read verb false (← given.letters verb word letters) rest
    | .plain text => do read verb false (← given.plain verb text) rest

end Given

namespace Values

def withVariables (env : List (String × String)) (verb : Verb) (values : Values) :
    Except Usage Values :=
  verb.named.foldlM (fun values parameter =>
    match parameter.standIn?.bind (fun name => env.lookup name) with
    | some value => if values.has parameter then .ok values else values.settle parameter value
    | none => .ok values) values

def read (env : List (String × String)) (verb : Verb) (words : List String) :
    Except Usage Values := do
  let given ← Given.nothing.read verb false words
  let values ← given.settled.withVariables env verb
  match verb.subject? with
  | some parameter => if values.has parameter then return values else throw (.notGiven parameter)
  | none => return values

end Values

end Vouch.Command
