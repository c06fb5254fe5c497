import Vouch.File
import Vouch.Text.Search

/-!
Files and folders in memory, with the problems that an operating system reports.

What there is lies at a way: the names that lead to it from the outermost folder.  A path that starts
with a slash leads from there and any other path from the working folder; `..` leads back, and from
the outermost folder nowhere else.  There are no links.
-/

namespace Vouch

inductive Folder.Entry where
  | folder
  | file (content : ByteArray)
  deriving Inhabited

/-- A working folder, with all that lies in it and around it. -/
structure Folder where
  entries : List (List String × Folder.Entry)
  here : List String

namespace Folder

def empty : Folder :=
  { entries := [(["work"], .folder)], here := ["work"] }

def entryAt? (place : Folder) : List String → Option Entry
  | [] => some .folder
  | way => place.entries.lookup way

def isFolder (place : Folder) (way : List String) : Bool :=
  match place.entryAt? way with
  | some .folder => true
  | _ => false

def set (place : Folder) (way : List String) (entry : Entry) : Folder :=
  { place with entries := (way, entry) :: place.entries.filter (·.1 != way) }

/-! ### Paths -/

def names (path : String) : List String :=
  ((Text.pieces '/' path.toList).filter (!·.isEmpty)).map String.ofList

def start (place : Folder) (path : String) : List String :=
  if path.toList.head? = some '/' then [] else place.here

def endsWithSlash (path : String) : Bool :=
  path.toList.getLast? == some '/'

def longestName : Nat := 255

def longestPath : Nat := 4096

def flaw? (path : String) : Option File.Problem :=
  if path.toList.contains (Char.ofNat 0) then some .badPath
  else if path.isEmpty then some .missing
  else if longestPath ≤ path.utf8ByteSize then some .nameTooLong
  else none

def walk (place : Folder) (way : List String) : List String → Except File.Problem (List String)
  | [] => .ok way
  | name :: rest =>
    if name = "." then place.walk way rest
    else if name = ".." then place.walk way.dropLast rest
    else if longestName < name.utf8ByteSize then .error .nameTooLong
    else
      match place.entryAt? (way ++ [name]) with
      | some .folder => place.walk (way ++ [name]) rest
      | some (.file _) => if rest.isEmpty then .ok (way ++ [name]) else .error .notDirectory
      | none => .error .missing

def folderAt (place : Folder) (way names : List String) : Except File.Problem (List String) := do
  let way ← place.walk way names
  if place.isFolder way then return way else throw .notDirectory

def locate (place : Folder) (path : String) : Except File.Problem (List String) :=
  place.folderAt (place.start path) (names path)

/-! ### Reading -/

def at? (place : Folder) (path : String) : Except File.Problem Entry := do
  if let some flaw := flaw? path then throw flaw
  match place.entryAt? (← place.walk (place.start path) (names path)) with
  | some .folder => return .folder
  | some (.file content) =>
    if endsWithSlash path then throw .notDirectory else return .file content
  | none => throw .missing

def read (place : Folder) (path : String) : Except File.Problem String := do
  match ← place.at? path with
  | .file content => File.textOf content
  | .folder => throw .isDirectory

/-! ### Making folders -/

def makeOne (place : Folder) (way names : List String) : Except File.Problem Folder :=
  match names.getLast? with
  | none => .error .alreadyThere
  | some name => do
    let outer ← place.folderAt way names.dropLast
    if name = "." ∨ name = ".." then throw .alreadyThere
    else if longestName < name.utf8ByteSize then throw .nameTooLong
    else if (place.entryAt? (outer ++ [name])).isSome then throw .alreadyThere
    else return place.set (outer ++ [name]) .folder

def unlessThere (place : Folder) (way names : List String) (problem : File.Problem) :
    Except File.Problem Unit :=
  match place.folderAt way names with
  | .ok _ => .ok ()
  | .error _ => .error problem

/-- The place with the first of several folders made.  The others are those around it, which are made
before it if it lies in none that is there; they stay even if it cannot be made then. -/
def makeAll (place : Folder) (way : List String) :
    List (List String) → Folder × Except File.Problem Unit
  | [] => (place, .ok ())
  | names :: around =>
    match place.makeOne way names with
    | .ok place => (place, .ok ())
    | .error .missing =>
      match place.makeAll way around with
      | (place, .error problem) => (place, .error problem)
      | (place, .ok ()) =>
        match place.makeOne way names with
        | .ok place => (place, .ok ())
        | .error problem => (place, place.unlessThere way names problem)
    | .error problem => (place, place.unlessThere way names problem)

def outward (names : List String) : List (List String) :=
  let steps := names.filter (· != ".")
  names :: (List.range steps.length).reverse.map steps.take

def makeFolder (place : Folder) (path : String) : Folder × Except File.Problem Unit :=
  if path.isEmpty then (place, .ok ())
  else
    match flaw? path with
    | some flaw => (place, .error flaw)
    | none => place.makeAll (place.start path) (outward (names path))

/-! ### Writing -/

/-- The place with an empty file at a path, which loses what it held before, and the way to it. -/
def create (place : Folder) (path : String) : Except File.Problem (List String × Folder) :=
  match flaw? path, (names path).getLast? with
  | some flaw, _ => .error flaw
  | none, none => .error .isDirectory
  | none, some name => do
    let outer ← place.folderAt (place.start path) (names path).dropLast
    if name = "." ∨ name = ".." ∨ endsWithSlash path then throw .isDirectory
    else if longestName < name.utf8ByteSize then throw .nameTooLong
    else if place.isFolder (outer ++ [name]) then throw .isDirectory
    else return (outer ++ [name], place.set (outer ++ [name]) (.file .empty))

def patched (content : ByteArray) (offset : Nat) (bytes : ByteArray) : ByteArray :=
  content.extract 0 offset ++ ⟨Array.replicate (offset - content.size) 0⟩ ++ bytes ++
    content.extract (offset + bytes.size) content.size

def writeAt (place : Folder) (way : List String) (offset : Nat) (bytes : ByteArray) : Folder :=
  match place.entryAt? way with
  | some (.file content) => place.set way (.file (patched content offset bytes))
  | _ => place

def put (place : Folder) (path : String) (content : ByteArray) : Folder :=
  let (place, _) := place.makeAll (place.start path) (outward (names path).dropLast)
  match place.create path with
  | .ok (way, place) => place.writeAt way 0 content
  | .error _ => place

def files (path : String) (place : Folder) : List (String × ByteArray) :=
  place.entries.filterMap fun (way, entry) =>
    match entry with
    | .folder => none
    | .file content =>
      if place.here.isPrefixOf way then
        some (path ++ "/".intercalate (way.drop place.here.length), content)
      else none

end Folder

end Vouch
