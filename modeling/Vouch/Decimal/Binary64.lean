import Vouch.Decimal

/-!
Binary floating-point numbers of 64 bits, in exact arithmetic on whole numbers: rounding a quotient
to the nearest number, products and quotients, and the shortest decimal that reads back.
-/

namespace Vouch.Decimal

structure Binary64 where
  negative : Bool
  mantissa : Nat
  exponent : Int
  deriving DecidableEq, Repr

namespace Binary64

def leastExponent : Int := -1074

def greatestExponent : Int := 971

/-- The nearest whole number to a quotient; a half goes to the even neighbour. -/
def nearest (num den : Nat) : Nat :=
  let low := num / den
  let twice := 2 * (num % den)
  if twice < den then low
  else if den < twice then low + 1
  else if low % 2 = 0 then low else low + 1

/-- A quotient with both sides scaled so that it counts units of `2 ^ exponent`. -/
def inUnits (num den : Nat) (exponent : Int) : Nat × Nat :=
  let power := Nat.pow 2 exponent.natAbs
  if exponent < 0 then (num * power, den) else (num, den * power)

def exponentOf (num den : Nat) : Int :=
  let guess : Int := (Nat.log2 num : Int) - Nat.log2 den - 52
  let (n, d) := inUnits num den guess
  max leastExponent (if n / d < Nat.pow 2 52 then guess - 1 else guess)

/-- The number nearest to a positive quotient, or nothing if that is beyond the largest number. -/
def ofQuotient? (num den : Nat) : Option Binary64 :=
  if num = 0 then some ⟨false, 0, leastExponent⟩
  else
    let exponent := exponentOf num den
    let (n, d) := inUnits num den exponent
    let mantissa := nearest n d
    let rounded : Binary64 :=
      if mantissa = Nat.pow 2 53 then ⟨false, Nat.pow 2 52, exponent + 1⟩
      else ⟨false, mantissa, exponent⟩
    if greatestExponent < rounded.exponent then none else some rounded

def quotient (x : Binary64) : Nat × Nat :=
  if x.exponent < 0 then (x.mantissa, Nat.pow 2 x.exponent.natAbs)
  else (x.mantissa * Nat.pow 2 x.exponent.natAbs, 1)

def times? (x y : Binary64) : Option Binary64 :=
  ofQuotient? (x.quotient.1 * y.quotient.1) (x.quotient.2 * y.quotient.2)

def over? (x y : Binary64) : Option Binary64 :=
  ofQuotient? (x.quotient.1 * y.quotient.2) (x.quotient.2 * y.quotient.1)

def powerOfTen? (n : Nat) : Option Binary64 :=
  ofQuotient? (Nat.pow 10 n) 1

/-- The least and the greatest magnitude that round to a number, in quarters of its unit, and
whether they belong to it themselves. -/
def interval (x : Binary64) : Nat × Nat × Bool :=
  let below := if x.mantissa = Nat.pow 2 52 ∧ leastExponent < x.exponent then 1 else 2
  (4 * x.mantissa - below, 4 * x.mantissa + 2, x.mantissa % 2 = 0)

structure Digits where
  value : Nat
  power : Int
  deriving DecidableEq, Repr

def quarterUnit (x : Binary64) (power : Int) : Nat × Nat :=
  let unit := Nat.pow 2 x.exponent.natAbs
  let (n, d) := if x.exponent < 0 then (1, unit) else (unit, 1)
  if power < 0 then (n * Nat.pow 10 power.natAbs, 4 * d) else (n, 4 * d * Nat.pow 10 power.natAbs)

def onGrid? (x : Binary64) (power : Int) : Option Digits :=
  let (n, d) := quarterUnit x power
  let (least, greatest, inclusive) := x.interval
  let middle := 4 * x.mantissa * n
  let low := middle / d
  let reads (v : Nat) : Bool :=
    if inclusive then least * n ≤ v * d && v * d ≤ greatest * n
    else least * n < v * d && v * d < greatest * n
  let lowNearer := 2 * (middle % d) ≤ d
  match reads low, reads (low + 1) with
  | true, true => some ⟨if lowNearer then low else low + 1, power⟩
  | true, false => some ⟨low, power⟩
  | false, true => some ⟨low + 1, power⟩
  | false, false => none

def leadingPower (x : Binary64) : Int :=
  let (n, d) := x.quotient
  if d ≤ n then ((digits (n / d)).length : Int) - 1
  else
    let lifted := (digits (n * Nat.pow 10 400 / d)).length
    (lifted : Int) - 401

def shortestFrom (x : Binary64) (leading : Int) : Nat → Digits
  | 0 => ⟨0, 0⟩
  | tries + 1 =>
    match onGrid? x (leading - (16 - tries : Nat)) with
    | some found => found
    | none => shortestFrom x leading tries

/-- The shortest decimal that reads back as a positive number, and the nearest of those. -/
def shortest (x : Binary64) : Digits :=
  shortestFrom x x.leadingPower 17

def trimmed (d : Digits) : List Char × Int :=
  let all := digits d.value
  let kept := (all.reverse.dropWhile (· == '0')).reverse
  (kept, d.power + ((all.length - kept.length : Nat) : Int))

def exponentChars (n : Int) : List Char :=
  (if n < 0 then '-' else '+') :: padded 2 n.natAbs

/-- How a number is written: positionally, always with a point, when its first digit stands for a
power of ten from -5 to 15, and with an exponent otherwise. -/
def chars (x : Binary64) : List Char :=
  let body :=
    if x.mantissa = 0 then ['0', '.', '0']
    else
      let (ds, power) := trimmed x.shortest
      let first := power + ((ds.length - 1 : Nat) : Int)
      if first < -5 ∨ 15 < first then
        ds.take 1 ++ (if ds.length = 1 then [] else '.' :: ds.drop 1) ++ 'e' :: exponentChars first
      else if 0 ≤ power then ds ++ List.replicate power.toNat '0' ++ ['.', '0']
      else if 0 ≤ first then ds.take (first.toNat + 1) ++ '.' :: ds.drop (first.toNat + 1)
      else '0' :: '.' :: List.replicate (-first - 1).toNat '0' ++ ds
  if x.negative then '-' :: body else body

end Binary64

end Vouch.Decimal
