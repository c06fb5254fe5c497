import Vouch.Decimal
import Vouch.Url.Form
import Vouch.Url.Host

/-!
URLs: reading them, and the parts that requests are made of.

A text is read as web browsers read it.  Blanks around it, tabs and line breaks are passed over, the
segments `.` and `..` of a path are worked off, and characters that may not stand in a part are
written as escapes.  Credentials and fragments are read past, since no request holds them.
-/

namespace Vouch

structure Url where
  scheme : String
  host : Option Url.Host
  port : Option Nat
  path : List Char
  /-- The written form of the query, after its question mark. -/
  query : Option (List Char)
  deriving DecidableEq, Repr

namespace Url

inductive Kind where
  | web
  | file
  | other
  deriving DecidableEq, Repr

def Kind.ofScheme (scheme : String) : Kind :=
  if scheme ∈ ["http", "https", "ws", "wss", "ftp"] then .web
  else if scheme = "file" then .file
  else .other

def usualPort? (scheme : String) : Option Nat :=
  match scheme with
  | "http" | "ws" => some 80
  | "https" | "wss" => some 443
  | "ftp" => some 21
  | _ => none

/-- A blank or control character, which is passed over around a URL. -/
def isMargin (c : Char) : Bool :=
  c.toNat ≤ 0x20

def isBreak (c : Char) : Bool :=
  c == '\t' || c == '\n' || c == '\r'

def relevant (s : String) : List Char :=
  let inner := ((s.toList.dropWhile isMargin).reverse.dropWhile isMargin).reverse
  inner.filter (fun c => !isBreak c)

def isSchemeChar (c : Char) : Bool :=
  Text.isAsciiLetter c || c.isDigit || c == '+' || c == '-' || c == '.'

def splitScheme? (cs : List Char) : Option (String × List Char) :=
  let name := cs.takeWhile isSchemeChar
  match name, cs.drop name.length with
  | first :: _, ':' :: rest =>
    if Text.isAsciiLetter first then some (String.ofList (Text.lowerChars name), rest) else none
  | _, _ => none

def isSlash (kind : Kind) (c : Char) : Bool :=
  c == '/' || (c == '\\' && kind != .other)

def endsHost (kind : Kind) (c : Char) : Bool :=
  isSlash kind c || c == '?' || c == '#'

/-- What stands before the last `@`, and what follows it; without one, everything follows. -/
def splitCredentials (cs : List Char) : Option (List Char) × List Char :=
  let host := (cs.reverse.takeWhile (· != '@')).reverse
  if host.length = cs.length then (none, cs)
  else (some (cs.take (cs.length - host.length - 1)), host)

def splitPort (bracketed : Bool) : List Char → List Char × List Char
  | [] => ([], [])
  | c :: rest =>
    if c == ':' && !bracketed then ([], c :: rest)
    else
      let inside := if c == '[' then true else if c == ']' then false else bracketed
      let (host, port) := splitPort inside rest
      (c :: host, port)

def maxPort : Nat := 65535

/-- The port after a colon.  A backslash ends it for every scheme. -/
def portOf (cs : List Char) : Except Flaw (Option Nat) :=
  let digits := cs.takeWhile Char.isDigit
  match cs.drop digits.length with
  | [] | '\\' :: _ =>
    if digits.isEmpty then .ok none
    else
      let port := Decimal.ofDigits 0 digits
      if port ≤ maxPort then .ok (some port) else .error .badPort
  | _ => .error .badPort

def areVoid (credentials : List Char) : Bool :=
  credentials.isEmpty || credentials == [':']

def authority (kind : Kind) (scheme : String) (cs rest : List Char) :
    Except Flaw (Option Host × Option Nat) := do
  let (credentials, place) := splitCredentials cs
  if credentials == some [] ∧ place.isEmpty ∧ !rest.isEmpty then throw .emptyHost
  let (name, colonAndPort) := splitPort false place
  let host ←
    if kind = .other then Host.readNamed name
    else if name.isEmpty then throw .emptyHost
    else Host.read name
  if name.isEmpty ∧ (!colonAndPort.isEmpty ∨ !(credentials.all areVoid)) then throw .emptyHost
  let port ← portOf (colonAndPort.drop 1)
  return (if name.isEmpty then none else some host, port.filter (usualPort? scheme != some ·))

def isPathChar (c : Char) : Bool :=
  0x20 < c.toNat && c.toNat < 0x7F && !"\"#<>?`{}".toList.contains c

def isQueryChar (kind : Kind) (c : Char) : Bool :=
  0x20 < c.toNat && c.toNat < 0x7F && !"\"#<>".toList.contains c && !(c == '\'' && kind != .other)

def dropDot? : List Char → Option (List Char)
  | '.' :: rest => some rest
  | '%' :: '2' :: e :: rest => if e == 'e' || e == 'E' then some rest else none
  | _ => none

def isHere (segment : List Char) : Bool :=
  dropDot? segment == some []

def isAbove (segment : List Char) : Bool :=
  (dropDot? segment).bind dropDot? == some []

def segments (kind : Kind) (cs : List Char) : List (List Char) :=
  Text.pieces '/' (cs.map fun c => if isSlash kind c then '/' else c)

/-- The segments of a path with `.` and `..` worked off, after the segments before them in reverse
order.  A path that ends with either ends with a slash. -/
def resolve : (before : List (List Char)) → List (List Char) → List (List Char)
  | before, [] => before.reverse
  | before, segment :: rest =>
    let last := rest.isEmpty
    if isAbove segment then
      resolve (if last then [] :: before.drop 1 else before.drop 1) rest
    else if isHere segment then
      resolve (if last then [] :: before else before) rest
    else resolve (Text.percentEscaped isPathChar segment :: before) rest

def rootedPath (kind : Kind) (cs : List Char) : List Char :=
  (resolve [] (segments kind cs)).flatMap ('/' :: ·)

def splitQuery (cs : List Char) : List Char × Option (List Char) :=
  let whole := cs.takeWhile (· != '#')
  let before := whole.takeWhile (· != '?')
  match whole.drop before.length with
  | _ :: query => (before, some query)
  | [] => (before, none)

def pathAfterHost (kind : Kind) (cs : List Char) : List Char :=
  match cs with
  | [] => if kind = .other then [] else ['/']
  | c :: rest => rootedPath kind (if isSlash kind c then rest else c :: rest)

def ofParts (kind : Kind) (scheme : String) (host : Option Host) (port : Option Nat)
    (path : List Char → List Char) (cs : List Char) : Url :=
  let (before, query) := splitQuery cs
  { scheme, host, port, path := path before
    query := query.map (Text.percentEscaped (isQueryChar kind)) }

def ofAuthority (kind : Kind) (scheme : String) (cs : List Char) : Except Flaw Url := do
  let place := cs.takeWhile (fun c => !endsHost kind c)
  let rest := cs.drop place.length
  let (host, port) ← authority kind scheme place rest
  return ofParts kind scheme host port (pathAfterHost kind) rest

def ofFile (scheme : String) (cs : List Char) : Except Flaw Url := do
  match cs with
  | a :: b :: rest =>
    if isSlash .file a && isSlash .file b then
      let name := rest.takeWhile (fun c => !endsHost .file c)
      let drive := match name with
        | [letter, mark] => Text.isAsciiLetter letter && (mark == ':' || mark == '|')
        | _ => false
      if name.isEmpty || drive then return ofParts .file scheme none none (pathAfterHost .file) rest
      let host ← Host.read name
      return ofParts .file scheme (some host) none (pathAfterHost .file) (rest.drop name.length)
    else return ofParts .file scheme none none (pathAfterHost .file) cs
  | _ => return ofParts .file scheme none none (pathAfterHost .file) cs

def ofOther (scheme : String) (cs : List Char) : Except Flaw Url :=
  match cs with
  | '/' :: '/' :: rest => ofAuthority .other scheme rest
  | '/' :: _ => .ok (ofParts .other scheme none none (pathAfterHost .other) cs)
  | _ => .ok (ofParts .other scheme none none (Text.percentEscaped (!Host.isControl ·)) cs)

def read (s : String) : Except Flaw Url :=
  match splitScheme? (relevant s) with
  | none => .error .noScheme
  | some (scheme, rest) =>
    match Kind.ofScheme scheme with
    | .web => ofAuthority .web scheme (rest.dropWhile (isSlash .web))
    | .file => ofFile scheme rest
    | .other => ofOther scheme rest

def portOrUsual? (url : Url) : Option Nat :=
  url.port.or (usualPort? url.scheme)

def withPairs (url : Url) (pairs : List (String × String)) : Url :=
  let added := Form.chars pairs
  let query := match url.query with
    | none | some [] => added
    | some before => before ++ '&' :: added
  { url with query := some query }

def target (url : Url) : String :=
  String.ofList (url.path ++ match url.query with
    | some query => '?' :: query
    | none => [])

end Url

end Vouch
