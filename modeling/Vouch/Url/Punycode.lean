/-!
Punycode: a text in any alphabet written with letters, digits and hyphens.

The ASCII characters come first and, after a hyphen, the places and values of the others in
ascending order.  Each step forward is written as a number with a variable base, which adapts to
the sizes of the steps before it.
-/

namespace Vouch.Url.Punycode

def digitChar (d : Nat) : Char :=
  if d < 26 then Char.ofNat (97 + d) else Char.ofNat (22 + d)

def digitValue? (c : Char) : Option Nat :=
  let n := c.toNat
  if 97 ≤ n ∧ n ≤ 122 then some (n - 97)
  else if 65 ≤ n ∧ n ≤ 90 then some (n - 65)
  else if 48 ≤ n ∧ n ≤ 57 then some (n - 22)
  else none

/-- How large a digit must be to have another one after it. -/
def threshold (place bias : Nat) : Nat :=
  if place ≤ bias then 1 else if bias + 26 ≤ place then 26 else place - bias

theorem threshold_pos (place bias : Nat) : 1 ≤ threshold place bias := by
  unfold threshold
  split
  · omega
  · split <;> omega

/-- A step divided until it is small, and the places it took. -/
def shrink (delta places : Nat) : Nat × Nat :=
  if 455 < delta then shrink (delta / 35) (places + 36) else (delta, places)
termination_by delta
decreasing_by exact Nat.div_lt_self (by omega) (by omega)

/-- The bias after a step, when so many characters are in place. -/
def adapt (delta count : Nat) (first : Bool) : Nat :=
  let damped := if first then delta / 700 else delta / 2
  let (small, places) := shrink (damped + damped / count) 0
  places + 36 * small / (small + 38)

def stepDigits (bias place step : Nat) : List Char :=
  let t := threshold place bias
  if step < t then [digitChar step]
  else
    digitChar (t + (step - t) % (36 - t)) :: stepDigits bias (place + 36) ((step - t) / (36 - t))
termination_by step
decreasing_by
  have := threshold_pos place bias
  calc (step - threshold place bias) / (36 - threshold place bias)
      ≤ step - threshold place bias := Nat.div_le_self _ _
    _ < step := by omega

structure Progress where
  written : List Char
  delta : Nat
  bias : Nat
  count : Nat

/-- The progress after one character of the text, when all below `value` are in place. -/
def visit (plainCount value : Nat) (p : Progress) (c : Char) : Progress :=
  if c.toNat < value then { p with delta := p.delta + 1 }
  else if c.toNat = value then
    { written := p.written ++ stepDigits p.bias 36 p.delta
      delta := 0
      bias := adapt p.delta (p.count + 1) (p.count == plainCount)
      count := p.count + 1 }
  else p

/-- The progress after all characters with one of these values, in ascending order. -/
def place (text : List Char) (plainCount : Nat) : List Nat → Nat → Progress → Progress
  | [], _, p => p
  | value :: rest, from', p =>
    let p := { p with delta := p.delta + (value - from') * (p.count + 1) }
    let p := text.foldl (visit plainCount value) p
    place text plainCount rest (value + 1) { p with delta := p.delta + 1 }

def insertAscending (n : Nat) : List Nat → List Nat
  | [] => [n]
  | m :: rest =>
    if n < m then n :: m :: rest else if n = m then m :: rest else m :: insertAscending n rest

def encode (text : List Char) : List Char :=
  let plain := text.filter (fun c => c.toNat < 128)
  let values := (text.filter (fun c => 128 ≤ c.toNat)).foldr
    (fun c values => insertAscending c.toNat values) []
  let p := place text plain.length values 128
    { written := [], delta := 0, bias := 72, count := plain.length }
  plain ++ (if plain.isEmpty then [] else ['-']) ++ p.written

def step? (bias : Nat) : (place weight sum : Nat) → List Char → Option (Nat × List Char)
  | _, _, _, [] => none
  | place, weight, sum, c :: rest => do
    let digit ← digitValue? c
    let sum := sum + digit * weight
    let t := threshold place bias
    if digit < t then some (sum, rest)
    else step? bias (place + 36) (weight * (36 - t)) sum rest

def insertAt (text : List Char) (position : Nat) (c : Char) : List Char :=
  text.take position ++ c :: text.drop position

/-- The text with the characters that digits stand for put into place.  The budget is the number of
characters that may be added. -/
def insertAll : (budget value position bias : Nat) → List Char → List Char → Option (List Char)
  | _, _, _, _, text, [] => some text
  | 0, _, _, _, _, _ => none
  | budget + 1, value, position, bias, text, digits => do
    let (step, rest) ← step? bias 36 1 0 digits
    let count := text.length + 1
    let next := position + step
    let value := value + next / count
    let spot := next % count
    if 0x10FFFF < value ∨ (0xD800 ≤ value ∧ value ≤ 0xDFFF) then none
    else
      insertAll budget value (spot + 1) (adapt step count (position == 0))
        (insertAt text spot (Char.ofNat value)) rest

/-- What stands before and after the last hyphen; without one, everything stands after it. -/
def aroundLastHyphen (cs : List Char) : List Char × List Char :=
  let tail := (cs.reverse.takeWhile (· != '-')).reverse
  (cs.take (cs.length - tail.length - 1), tail)

/-- The text of a written form without a mark in front. -/
def decode? (cs : List Char) : Option (List Char) :=
  let (plain, digits) := aroundLastHyphen cs
  insertAll digits.length 128 0 72 plain digits

end Vouch.Url.Punycode
