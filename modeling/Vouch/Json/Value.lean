import Vouch.Decimal

/-!
JSON values whose numbers are whole, and their two written forms: in one line without blanks, and
over several lines with two blanks for each level.

The members of an object keep their order.
-/

namespace Vouch.Json

inductive Value where
  | null
  | bool (b : Bool)
  | int (n : Int)
  | text (s : String)
  | list (items : List Value)
  | object (members : List (String × Value))
  deriving Repr, Inhabited

namespace Value

def nat (n : Nat) : Value := .int n

def orNull (f : α → Value) : Option α → Value
  | some a => f a
  | none => .null

def texts (items : List String) : Value := .list (items.map .text)

def member? (name : String) (f : α → Value) : Option α → List (String × Value)
  | some a => [(name, f a)]
  | none => []

def get? (name : String) : Value → Option Value
  | .object members => members.lookup name
  | _ => none

end Value

def shortEscape? (c : Char) : Option Char :=
  match c with
  | '"' => some '"'
  | '\\' => some '\\'
  | '\x08' => some 'b'
  | '\x0c' => some 'f'
  | '\n' => some 'n'
  | '\r' => some 'r'
  | '\t' => some 't'
  | _ => none

/-- How one character is written inside a string: only quotes, backslashes and control characters
are escaped. -/
def escaped (c : Char) : List Char :=
  match shortEscape? c with
  | some letter => ['\\', letter]
  | none =>
    if c.toNat < 32 then
      ['\\', 'u', '0', '0', Nat.digitChar (c.toNat / 16), Nat.digitChar (c.toNat % 16)]
    else [c]

def stringChars (s : String) : List Char :=
  '"' :: s.toList.flatMap escaped ++ ['"']

def joined (separator : List Char) : List (List Char) → List Char
  | [] => []
  | [last] => last
  | part :: rest => part ++ separator ++ joined separator rest

namespace Value

mutual

def chars : Value → List Char
  | .null => ['n', 'u', 'l', 'l']
  | .bool true => ['t', 'r', 'u', 'e']
  | .bool false => ['f', 'a', 'l', 's', 'e']
  | .int n => Decimal.chars n
  | .text s => stringChars s
  | .list items => '[' :: joined [','] (itemChars items) ++ [']']
  | .object members => '{' :: joined [','] (memberChars members) ++ ['}']

def itemChars : List Value → List (List Char)
  | [] => []
  | item :: rest => chars item :: itemChars rest

def memberChars : List (String × Value) → List (List Char)
  | [] => []
  | (name, value) :: rest => (stringChars name ++ ':' :: chars value) :: memberChars rest

end

def lineBreak (level : Nat) : List Char :=
  '\n' :: List.replicate (2 * level) ' '

def bracketed (left right : Char) (level : Nat) (parts : List (List Char)) : List Char :=
  if parts.isEmpty then [left, right]
  else
    left :: lineBreak (level + 1) ++ joined (',' :: lineBreak (level + 1)) parts ++
      lineBreak level ++ [right]

mutual

/-- The written form over several lines, at a level. -/
def prettyChars (level : Nat) : Value → List Char
  | .list items => bracketed '[' ']' level (prettyItems (level + 1) items)
  | .object members => bracketed '{' '}' level (prettyMembers (level + 1) members)
  | .null => chars .null
  | .bool b => chars (.bool b)
  | .int n => chars (.int n)
  | .text s => chars (.text s)

def prettyItems (level : Nat) : List Value → List (List Char)
  | [] => []
  | item :: rest => prettyChars level item :: prettyItems level rest

/-- The forms over several lines of the members of an object. -/
def prettyMembers (level : Nat) : List (String × Value) → List (List Char)
  | [] => []
  | (name, value) :: rest =>
    (stringChars name ++ ':' :: ' ' :: prettyChars level value) :: prettyMembers level rest

end

def line (v : Value) : String :=
  String.ofList v.chars

def pretty (v : Value) : String :=
  String.ofList (prettyChars 0 v)

end Value

end Vouch.Json
