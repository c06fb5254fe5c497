import Vouch.Text.Quoted
import Vouch.Time.Stamp
import Vouch.Json.Flaw
import Vouch.Json.Scan

/-!
Why a JSON document is refused: it is not JSON, or it is not a document of the wanted shape.
-/

namespace Vouch.Json

inductive Finding where
  | null
  | bool (b : Bool)
  | number (n : Number)
  | text (s : String)
  | list
  | object
  deriving Repr

def Finding.message : Finding → String
  | .null => "null"
  | .bool b => "boolean `" ++ (if b then "true" else "false") ++ "`"
  | .number (.whole n) => "integer `" ++ Decimal.text n ++ "`"
  | .number (.real x) => "floating point `" ++ String.ofList x.chars ++ "`"
  | .text s => "string " ++ Text.quoted s
  | .list => "sequence"
  | .object => "map"

inductive Complaint where
  | flaw (flaw : Flaw)
  | wrongType (found : Finding) (expected : String)
  | wrongValue (found : Finding) (expected : String)
  | wrongLength (length : Nat) (expected : String)
  | missing (name : String)
  | duplicate (name : String)
  | unknown (name : String) (known : List String)
  | stamp (flaw : Time.StampFlaw)
  deriving Repr

def alternatives : List String → String
  | [] => "there are no variants"
  | [one] => "expected `" ++ one ++ "`"
  | [one, other] => "expected `" ++ one ++ "` or `" ++ other ++ "`"
  | names => "expected one of " ++ ", ".intercalate (names.map fun name => "`" ++ name ++ "`")

def Complaint.message : Complaint → String
  | .flaw what => what.message
  | .wrongType found expected => "invalid type: " ++ found.message ++ ", expected " ++ expected
  | .wrongValue found expected => "invalid value: " ++ found.message ++ ", expected " ++ expected
  | .wrongLength length expected =>
    "invalid length " ++ Decimal.text length ++ ", expected " ++ expected
  | .missing name => "missing field `" ++ name ++ "`"
  | .duplicate name => "duplicate field `" ++ name ++ "`"
  | .unknown name known => "unknown variant `" ++ name ++ "`, " ++ alternatives known
  | .stamp what => what.message

structure Refusal where
  complaint : Complaint
  offset : Option Nat
  deriving Repr

namespace Refusal

def ofFault (fault : Fault) : Refusal :=
  ⟨.flaw fault.flaw, some fault.offset⟩

def message (text : String) (r : Refusal) : String :=
  match r.offset with
  | none => r.complaint.message
  | some offset =>
    let (line, column) := lineAndColumn text offset
    r.complaint.message ++ " at line " ++ Decimal.text line ++ " column " ++ Decimal.text column

end Refusal

end Vouch.Json
