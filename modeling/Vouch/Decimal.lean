/-!
Whole numbers written in decimal digits, with the ranges that the fields of this library allow.

Reading accepts one optional plus sign, or a minus sign where negative numbers are in range, then
one or more digits and nothing else.
-/

namespace Vouch.Decimal

def maxU16 : Nat := 65535

def maxU32 : Nat := 4294967295

def maxU64 : Nat := 18446744073709551615

def maxI64 : Int := 9223372036854775807

def minI64 : Int := -9223372036854775808

def ofDigits (start : Nat) (digits : List Char) : Nat :=
  digits.foldl (fun n c => n * 10 + (c.toNat - 48)) start

def digits? (cs : List Char) : Option Nat :=
  if !cs.isEmpty && cs.all Char.isDigit then some (ofDigits 0 cs) else none

def natural? (limit : Nat) (cs : List Char) : Option Nat :=
  let digits := match cs with
    | '+' :: rest => rest
    | _ => cs
  (digits? digits).filter (· ≤ limit)

def signed? (cs : List Char) : Option Int :=
  let value : Option Int := match cs with
    | '-' :: rest => (digits? rest).map (fun n => -(n : Int))
    | '+' :: rest => (digits? rest).map Int.ofNat
    | _ => (digits? cs).map Int.ofNat
  value.filter (fun n => minI64 ≤ n && n ≤ maxI64)

def digits (n : Nat) : List Char :=
  Nat.toDigits 10 n

def padded (width n : Nat) : List Char :=
  let written := digits n
  List.replicate (width - written.length) '0' ++ written

/-- A whole number, with a minus sign if it is negative. -/
def chars : Int → List Char
  | .ofNat n => digits n
  | .negSucc n => '-' :: digits (n + 1)

def text (n : Int) : String :=
  String.ofList (chars n)

end Vouch.Decimal
