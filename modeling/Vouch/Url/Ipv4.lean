import Vouch.Text.Ascii
import Vouch.Text.Search
import Vouch.Decimal

/-!
IPv4 addresses as hosts: one to four numbers with dots between them, each in base 8, 10 or 16.  The
last number fills all bytes that the others leave.
-/

namespace Vouch.Url.Ipv4

abbrev Address := UInt32

def ofDigits? (base : Nat) (cs : List Char) : Option Nat := do
  let digits ← cs.mapM (fun c => (Text.hexValue? c).filter (· < base))
  return digits.foldl (fun n d => base * n + d) 0

/-- The number of one part: in base 16 after `0x`, in base 8 after another zero, else in base 10. -/
def number? : List Char → Option Nat
  | [] => none
  | '0' :: 'x' :: rest | '0' :: 'X' :: rest => ofDigits? 16 rest
  | '0' :: c :: rest => ofDigits? 8 (c :: rest)
  | cs => ofDigits? 10 cs

def parts (host : List Char) : List (List Char) :=
  let parts := Text.pieces '.' host
  if parts.length > 1 && parts.getLast? == some [] then parts.dropLast else parts

def isMeant (host : List Char) : Bool :=
  match (parts host).getLast? with
  | some last => (!last.isEmpty && last.all Char.isDigit) || (number? last).isSome
  | none => false

def ofNumbers? (numbers : List Nat) : Option Address := do
  let last ← numbers.getLast?
  let bytes := numbers.dropLast
  if bytes.length > 3 || bytes.any (255 < ·) || Nat.pow 256 (4 - bytes.length) ≤ last then none
  else
    let high := bytes.zipIdx.foldl (fun sum (byte, i) => sum + byte * Nat.pow 256 (3 - i)) 0
    some (UInt32.ofNat (high + last))

def read? (host : List Char) : Option Address := do
  ofNumbers? (← (parts host).mapM number?)

def bytes (address : Address) : List Nat :=
  [3, 2, 1, 0].map fun i => address.toNat / Nat.pow 256 i % 256

def chars (address : Address) : List Char :=
  ['.'].intercalate ((bytes address).map Decimal.digits)

/-- The bytes of an address whose four parts are plain numbers in base 10, without leading zeros. -/
def plain? (cs : List Char) : Option (List Nat) := do
  let bytes ← (Text.pieces '.' cs).mapM fun part => do
    let n ← Decimal.digits? part
    if n ≤ 255 ∧ Decimal.digits n = part then some n else none
  if bytes.length = 4 then some bytes else none

end Vouch.Url.Ipv4
