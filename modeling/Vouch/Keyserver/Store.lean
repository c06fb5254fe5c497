import Vouch.Folder
import Vouch.Keyserver.Problem
import Vouch.Text.Ascii

/-!
The store of fetched keys: a folder with one file for each key, named after its ID.

The ID comes from a server, so it is only trusted as far as it is made of hexadecimal digits; no
other text becomes a part of a path.
-/

namespace Vouch.Keyserver.Store

def withoutMarks (mark : Char) : List Char → List Char
  | '0' :: c :: rest => if c = mark then withoutMarks mark rest else '0' :: c :: rest
  | cs => cs

def digits? (keyId : String) : Option (List Char) :=
  let digits := withoutMarks 'X' (withoutMarks 'x' keyId.toList)
  if !digits.isEmpty ∧ digits.all Text.isHexDigit then some (digits.map Char.toUpper) else none

def fileSuffix : String := ".asc"

def fileName? (keyId : String) : Option String :=
  (digits? keyId).map fun digits => String.ofList digits ++ fileSuffix

def path (folder keyId : String) : Except Problem String :=
  match fileName? keyId with
  | some name =>
    .ok (if folder.isEmpty ∨ Folder.endsWithSlash folder then folder ++ name
      else folder ++ "/" ++ name)
  | none => .error (.rejected keyId "key id is not hexadecimal")

/-- What becomes of storing a key in a folder, which is made if it is not there, and the place after
it.  A file that was there is emptied before the key is written. -/
def add (place : Folder) (folder keyId armored : String) : Except Problem Unit × Folder :=
  match path folder keyId with
  | .error problem => (.error problem, place)
  | .ok path =>
    match place.makeFolder folder with
    | (place, .error cause) => (.error (.rejected keyId cause.message), place)
    | (place, .ok ()) =>
      match place.create path with
      | .error cause => (.error (.rejected keyId cause.message), place)
      | .ok (way, place) => (.ok (), place.writeAt way 0 armored.toUTF8)

end Vouch.Keyserver.Store
