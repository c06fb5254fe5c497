import Vouch.Json.Shape

/-!
Numbers of fixed width in documents.
-/

namespace Vouch.Json.Value

def u32 (n : UInt32) : Value := .int n.toNat

def u64 (n : UInt64) : Value := .int n.toNat

def i64 (n : Int64) : Value := .int n.toInt

def u32? : Value → Option UInt32
  | .int (.ofNat n) => if n < UInt32.size then some (UInt32.ofNat n) else none
  | _ => none

def u64? : Value → Option UInt64
  | .int (.ofNat n) => if n < UInt64.size then some (UInt64.ofNat n) else none
  | _ => none

def i64? : Value → Option Int64
  | .int n => if Decimal.minI64 ≤ n ∧ n ≤ Decimal.maxI64 then some (Int64.ofInt n) else none
  | _ => none

def nat? : Value → Option Nat
  | .int (.ofNat n) => some n
  | _ => none

def text? : Value → Option String
  | .text s => some s
  | _ => none

def bool? : Value → Option Bool
  | .bool b => some b
  | _ => none

def instant? : Value → Option Time.Instant
  | .text s => (Time.Instant.read s).toOption
  | _ => none

def optional? (value : Value) (part : Value → Option α) : Option (Option α) :=
  match value with
  | .null => some none
  | _ => (part value).map some

def list? (value : Value) (item : Value → Option α) : Option (List α) :=
  match value with
  | .list items => items.mapM item
  | _ => none

end Vouch.Json.Value
