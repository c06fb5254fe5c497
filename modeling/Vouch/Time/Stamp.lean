import Vouch.Text.Blank
import Vouch.Time.Written

/-!
Reading the time stamps of documents: a date, a `T` or a blank, a time of day and an offset.

The fields are read leniently (blanks may stand before a number, a year beyond four digits needs a
sign, the offset may be written in several ways); what is wrong with a refused stamp is one of five
flaws, and the first one met counts.
-/

namespace Vouch.Time

inductive StampFlaw where
  /-- A number denotes no month, day, hour, minute, second, offset or representable year. -/
  | outOfRange
  /-- Local date and time are well-formed but universal time cannot represent them. -/
  | impossible
  | invalid
  | tooShort
  | tooLong
  deriving DecidableEq, Repr

def StampFlaw.message : StampFlaw → String
  | .outOfRange => "input is out of range"
  | .impossible => "no possible date and time matching input"
  | .invalid => "input contains invalid characters"
  | .tooShort => "premature end of input"
  | .tooLong => "trailing input"

namespace Stamp

def number (width : Option Nat) (cs : List Char) : Except StampFlaw (Nat × List Char) :=
  let digits := (match width with | some w => cs.take w | none => cs).takeWhile Char.isDigit
  match cs with
  | [] => .error .tooShort
  | _ =>
    if digits = [] then .error .invalid
    else
      let n := Decimal.ofDigits 0 digits
      if (n : Int) ≤ Decimal.maxI64 then .ok (n, cs.drop digits.length) else .error .outOfRange

def within (least greatest n : Nat) : Except StampFlaw Nat :=
  if least ≤ n ∧ n ≤ greatest then .ok n else .error .outOfRange

/-- A field of one or two digits within bounds, blanks before it ignored. -/
def field (least greatest : Nat) (cs : List Char) : Except StampFlaw (Nat × List Char) := do
  let (n, rest) ← number (some 2) (Text.trimFront cs)
  return (← within least greatest n, rest)

def year (cs : List Char) : Except StampFlaw (Int × List Char) := do
  let (n, rest) ← match Text.trimFront cs with
    | '-' :: rest => (number none rest).map (fun (n, rest) => (-(n : Int), rest))
    | '+' :: rest => (number none rest).map (fun (n, rest) => ((n : Int), rest))
    | rest => (number (some 4) rest).map (fun (n, rest) => ((n : Int), rest))
  if -2147483648 ≤ n ∧ n ≤ 2147483647 then return (n, rest) else .error .outOfRange

/-- A given character, blanks before it ignored. -/
def mark (c : Char) (cs : List Char) : Except StampFlaw (List Char) :=
  match Text.trimFront cs with
  | [] => .error .tooShort
  | d :: rest => if d = c then .ok rest else .error .invalid

def fraction (cs : List Char) : Except StampFlaw (Nat × List Char) := do
  match cs with
  | '.' :: rest =>
    let (n, after) ← number (some 9) rest
    let width := rest.length - after.length
    return (n * Nat.pow 10 (9 - width), after.dropWhile Char.isDigit)
  | _ => return (0, cs)

def pair (cs : List Char) : Except StampFlaw ((Nat × Nat) × List Char) :=
  match cs with
  | a :: b :: rest =>
    if a.isDigit && b.isDigit then .ok ((a.toNat - 48, b.toNat - 48), rest) else .error .invalid
  | [a] => if a.utf8Size < 2 then .error .tooShort else .error .invalid
  | [] => .error .tooShort

/-- The hours and minutes of an offset, in seconds; colons and blanks between them are ignored. -/
def span (cs : List Char) : Except StampFlaw (Nat × List Char) := do
  let ((a, b), rest) ← pair cs
  let ((c, d), rest) ← pair (rest.dropWhile (fun x => x == ':' || Text.isBlank x))
  if c < 6 then return ((10 * a + b) * 3600 + (10 * c + d) * 60, rest) else .error .outOfRange

/-- The offset from universal time: `UTC`, `Z` or a sign, hours and minutes. -/
def offset (cs : List Char) : Except StampFlaw (Int × List Char) := do
  match cs with
  | u :: t :: c :: rest =>
    if [u, t, c].map Char.toUpper = ['U', 'T', 'C'] then return (0, rest)
  | _ => pure ()
  match cs with
  | [] => .error .tooShort
  | 'Z' :: rest | 'z' :: rest => return (0, rest)
  | '+' :: rest => let (n, rest) ← span rest; return ((n : Int), rest)
  | '-' :: rest | '−' :: rest => let (n, rest) ← span rest; return (-(n : Int), rest)
  | _ => .error .invalid

def yearInRange (year : Int) : Bool :=
  -262143 ≤ year && year ≤ 262142

def resolve (r : Reading) (east : Int) : Except StampFlaw Instant :=
  if !yearInRange r.date.year || !r.date.isValid then .error .outOfRange
  else if east.natAbs ≥ 86400 then .error .outOfRange
  else
    let leap := r.second = 60
    let seconds := r.toSeconds - (if leap then 1 else 0) - east
    let nanos := r.nanos + (if leap then 1000000000 else 0)
    if h : (firstSecond ≤ seconds ∧ seconds ≤ lastSecond) ∧ nanos < 2000000000 then
      .ok ⟨seconds, nanos, h.1, h.2⟩
    else .error .impossible

def read (cs : List Char) : Except StampFlaw Instant := do
  let (year, rest) ← year cs
  let (month, rest) ← field 1 12 (← mark '-' rest)
  let (day, rest) ← field 1 31 (← mark '-' rest)
  let rest ← match rest with
    | 't' :: rest | 'T' :: rest | ' ' :: rest => pure rest
    | [] => .error .tooShort
    | _ => .error .invalid
  let (hour, rest) ← field 0 23 rest
  let (minute, rest) ← field 0 59 (← mark ':' rest)
  let (second, rest) ← field 0 60 (← mark ':' rest)
  let (nanos, rest) ← fraction rest
  let (east, rest) ← offset (Text.trimFront rest)
  if Text.trimFront rest ≠ [] then .error .tooLong
  resolve ⟨⟨year, month, day⟩, hour, minute, second, nanos⟩ east

end Stamp

def Instant.read (stamp : String) : Except StampFlaw Instant :=
  Stamp.read stamp.toList

end Vouch.Time
