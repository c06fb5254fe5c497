import Vouch.Json.Shape
import Vouch.Yaml.Node

/-!
The check that a YAML document has a shape, with the same settled forms as for JSON documents.

A plain scalar is a text, a truth value or a number, whichever the shape asks for.  All that counts
here is whether a document conforms, not why it does not.
-/

namespace Vouch.Yaml

open Json (Value Shape Member)

def isNullWord (s : String) : Bool :=
  s == "null" || s == "Null" || s == "NULL" || s == "~"

def flag? (s : String) : Option Bool :=
  if s == "true" || s == "True" || s == "TRUE" then some true
  else if s == "false" || s == "False" || s == "FALSE" then some false
  else none

def digit? (base : Nat) (c : Char) : Option Nat :=
  (Text.hexValue? c).filter (· < base)

/-- A number of one or more digits in a base, with an optional plus sign where no base is
written. -/
def digits? (base : Nat) (cs : List Char) : Option Nat :=
  if cs.isEmpty then none
  else (cs.mapM (digit? base)).map (fun ds => ds.foldl (fun n d => base * n + d) 0)

/-- The unsigned number of a word: in base 2, 8 or 16 after `0b`, `0o` or `0x`, else in base 10
without leading zeros. -/
def whole? (s : String) : Option Nat :=
  let cs := match s.toList with
    | '+' :: rest => rest
    | cs => cs
  match cs with
  | '0' :: 'x' :: rest => digits? 16 rest
  | '0' :: 'o' :: rest => digits? 8 rest
  | '0' :: 'b' :: rest => digits? 2 rest
  | '0' :: c :: rest => if (c :: rest).all Char.isDigit then none else digits? 10 cs
  | _ => digits? 10 cs

def localName? (tag : Option String) : Option String :=
  match tag.map String.toList with
  | some ('!' :: c :: rest) => some (String.ofList (c :: rest))
  | _ => none

/-- The text of a scalar whose word is looked at: a plain one, or a literal block with the tag of
the type. -/
def word? (tag : String) : Node → Option String
  | .scalar s .plain _ => some s
  | .scalar s .literal (some own) => if own = "tag:yaml.org,2002:" ++ tag then some s else none
  | _ => none

def nullTag : String := "tag:yaml.org,2002:null"

/-- A field has no value here.  What is tagged as nothing must be a word for it, and what has
another tag is something. -/
def isAbsent? : Node → Option Bool
  | .scalar s style none => some (style == .plain && (s.isEmpty || isNullWord s))
  | .scalar s _ (some tag) =>
    if tag = nullTag then (if isNullWord s then some true else none) else some false
  | _ => some false

def conformScalar (shape : Shape) (node : Node) : Option Value :=
  match shape, node with
  | .text, .scalar s _ _ => some (.text s)
  | .flag, _ => do return .bool (← flag? (← word? "bool" node))
  | .whole _ least greatest, _ => do
    let n ← whole? (← word? "int" node)
    if least ≤ (n : Int) ∧ (n : Int) ≤ greatest then some (.int n) else none
  | .choice names, .scalar s style tag =>
    match localName? tag with
    | some name =>
      if name ∈ names ∧ style = .plain ∧ (s.isEmpty ∨ isNullWord s) then some (.text name) else none
    | none => if s ∈ names then some (.text s) else none
  | .list _, .scalar s .plain _ => if s.isEmpty then some (.list []) else none
  | .record _ fields, .scalar s .plain _ =>
    if s.isEmpty then (fields.mapM (Member.settle .kept 0 [])).toOption.map .list else none
  | _, _ => none

mutual

def conform (shape : Shape) : Node → Option Value
  | .scalar s style tag => conformScalar shape (.scalar s style tag)
  | .list items _ =>
    match shape with
    | .list item => (conformItems item items).map .list
    | _ => none
  | .mapping members _ =>
    match shape with
    | .record _ fields => do
      let found ← conformMembers fields [] members
      (fields.mapM (Member.settle .kept 0 found)).toOption.map .list
    | _ => none
  | .knot => none

def conformItems (shape : Shape) : List Node → Option (List Value)
  | [] => some []
  | item :: rest => do return (← conform shape item) :: (← conformItems shape rest)

def conformMembers (fields : List (Member Shape)) (found : Json.Found) :
    List (Node × Node) → Option Json.Found
  | [] => some found
  | (key, value) :: rest =>
    match key with
    | .scalar name _ _ =>
      match fields.find? (fun field => field.name == name) with
      | none => conformMembers fields found rest
      | some field =>
        if (found.lookup name).isSome then none
        else
          match if field.need matches .optional then isAbsent? value else some false with
          | none => none
          | some true => conformMembers fields ((name, .null) :: found) rest
          | some false => do
            let settled ← conform field.shape value
            conformMembers fields ((name, settled) :: found) rest
    | _ => none

end

/-- The settled form of a text with at most one document.  A text without any stands for an empty
record. -/
def settle? (shape : Shape) (text : String) : Option Value := do
  match ← Node.documentsOf text with
  | [] => conform shape Node.nothing
  | [root] => conform shape root
  | _ => none

def decode? (shape : Shape) (ofValue? : Value → Option α) (text : String) : Option α := do
  ofValue? (← settle? shape text)

end Vouch.Yaml
