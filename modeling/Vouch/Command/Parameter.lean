import Vouch.Decimal

/-!
The commands of the program and what can be given to them.
-/

namespace Vouch.Command

inductive Verb where
  | analyse
  | search
  | fetch
  | upload
  | sync
  | probe
  | version
  deriving DecidableEq, Repr

inductive Parameter where
  | document
  | query
  | keys
  | output
  | config
  | server
  | timeout
  | probeTimeout
  | concurrency
  | json
  | help
  deriving DecidableEq, Repr

namespace Parameter

inductive Kind where
  | flag
  | text
  | path
  | number
  deriving DecidableEq, Repr

def kind : Parameter → Kind
  | .json | .help => .flag
  | .query | .server => .text
  | .document | .keys | .output | .config => .path
  | .timeout | .probeTimeout | .concurrency => .number

def longName? : Parameter → Option String
  | .document | .query => none
  | .keys => some "keys"
  | .output => some "output"
  | .config => some "config"
  | .server => some "server"
  | .timeout => some "timeout"
  | .probeTimeout => some "timeout-ms"
  | .concurrency => some "concurrency"
  | .json => some "json"
  | .help => some "help"

def shortName? : Parameter → Option Char
  | .output => some 'o'
  | .help => some 'h'
  | _ => none

def standIn? : Parameter → Option String
  | .config => some "SIGVERDICT_KEYSERVER_CONFIG"
  | _ => none

def shown : Parameter → String
  | .document => "<FILE>"
  | .query => "<QUERY>"
  | p => "--" ++ p.longName?.getD ""

def number? (value : String) : Option Nat :=
  Decimal.natural? Decimal.maxU64 value.toList

end Parameter

namespace Verb

def subject? : Verb → Option Parameter
  | .analyse | .upload | .sync => some .document
  | .search | .fetch => some .query
  | .probe | .version => none

def serverParameters : List Parameter := [.config, .server, .timeout]

def named : Verb → List Parameter
  | .analyse => [.keys, .json, .help]
  | .search => [.json, .help] ++ serverParameters
  | .fetch => [.output, .help] ++ serverParameters
  | .upload => .help :: serverParameters
  | .sync => [.output, .concurrency, .json, .help] ++ serverParameters
  | .probe => [.probeTimeout, .help] ++ serverParameters
  | .version => [.help]

def withLongName? (verb : Verb) (name : String) : Option Parameter :=
  verb.named.find? (fun p => p.longName? == some name)

def withShortName? (verb : Verb) (name : Char) : Option Parameter :=
  verb.named.find? (fun p => p.shortName? == some name)

end Verb

end Vouch.Command
