import Vouch.Text.Ascii
import Vouch.Decimal.Binary64
import Vouch.Json.Flaw

/-!
Scanning the strings and numbers of a JSON text.

A scan serves two purposes at once: the value itself may be wanted, or the text may only be passed
over.  Passing over is more lenient, so each scan says what is wrong for either purpose.
-/

namespace Vouch.Json

inductive Scanned (α : Type) where
  /-- A value, and the number of bytes and the text after it. -/
  | good (value : α) (offset : Nat) (rest : List Char)
  /-- No value, though the text can be passed over. -/
  | refused (fault : Fault) (offset : Nat) (rest : List Char)
  | broken (wanted passed : Fault)

def byteCount (cs : List Char) : Nat :=
  cs.foldl (fun n c => n + c.utf8Size) 0

def Scanned.of (wanted : Except Fault (α × Nat × List Char))
    (passed : Except Fault (Nat × List Char)) : Scanned α :=
  match wanted, passed with
  | .ok (value, offset, rest), _ => .good value offset rest
  | .error fault, .ok (offset, rest) => .refused fault offset rest
  | .error fault, .error other => .broken fault other

/-- Where a fault at the next character is reported: one byte on, unless the text has ended. -/
def ahead (offset : Nat) : List Char → Nat
  | [] => offset
  | _ => offset + 1

/-! ### Strings -/

/-- Four hexadecimal digits, which are looked for in the next four bytes. -/
def hexUnit (offset : Nat) (cs : List Char) : Except Fault (Nat × Nat × List Char) :=
  if byteCount (cs.take 4) < 4 then .error ⟨.eofInString, offset + byteCount (cs.take 4)⟩
  else
    match (cs.take 4).mapM Text.hexValue? with
    | some digits => .ok (digits.foldl (fun n d => 16 * n + d) 0, offset + 4, cs.drop 4)
    | none => .error ⟨.invalidEscape, offset + 4⟩

def paired (high low : Nat) : Char :=
  Char.ofNat ((high - 0xD800) * 0x400 + (low - 0xDC00) + 0x10000)

/-- The second half of a pair of surrogates, which must be a further escape. -/
def lowSurrogate (high offset : Nat) (cs : List Char) : Except Fault (Char × Nat × List Char) :=
  match cs with
  | [] => .error ⟨.eofInString, offset⟩
  | ['\\'] => .error ⟨.eofInString, offset + 1⟩
  | '\\' :: 'u' :: rest => do
    let (low, offset, rest) ← hexUnit (offset + 2) rest
    if 0xDC00 ≤ low ∧ low ≤ 0xDFFF then return (paired high low, offset, rest)
    else .error ⟨.loneSurrogate, offset⟩
  | '\\' :: _ => .error ⟨.unfinishedPair, offset + 2⟩
  | _ => .error ⟨.unfinishedPair, offset + 1⟩

def escape (offset : Nat) (cs : List Char) : Except Fault (Char × Nat × List Char) :=
  match cs with
  | [] => .error ⟨.eofInString, offset⟩
  | '"' :: rest => .ok ('"', offset + 1, rest)
  | '\\' :: rest => .ok ('\\', offset + 1, rest)
  | '/' :: rest => .ok ('/', offset + 1, rest)
  | 'b' :: rest => .ok ('\x08', offset + 1, rest)
  | 'f' :: rest => .ok ('\x0c', offset + 1, rest)
  | 'n' :: rest => .ok ('\n', offset + 1, rest)
  | 'r' :: rest => .ok ('\r', offset + 1, rest)
  | 't' :: rest => .ok ('\t', offset + 1, rest)
  | 'u' :: rest => do
    let (unit, offset, rest) ← hexUnit (offset + 1) rest
    if 0xDC00 ≤ unit ∧ unit ≤ 0xDFFF then .error ⟨.loneSurrogate, offset⟩
    else if 0xD800 ≤ unit ∧ unit ≤ 0xDBFF then lowSurrogate unit offset rest
    else return (Char.ofNat unit, offset, rest)
  | _ => .error ⟨.invalidEscape, offset + 1⟩

def passEscape (offset : Nat) (cs : List Char) : Except Fault (Nat × List Char) :=
  match cs with
  | [] => .error ⟨.eofInString, offset⟩
  | 'u' :: rest => do
    let (_, offset, rest) ← hexUnit (offset + 1) rest
    return (offset, rest)
  | c :: rest =>
    if c ∈ ['"', '\\', '/', 'b', 'f', 'n', 'r', 't'] then .ok (offset + 1, rest)
    else .error ⟨.invalidEscape, offset + 1⟩

/-- The characters of a string after its opening quote.  Each step takes at least one character, so
as many steps as there are characters are enough. -/
def stringBody : Nat → Nat → List Char → Except Fault (List Char × Nat × List Char)
  | _, offset, [] => .error ⟨.eofInString, offset⟩
  | _, offset, '"' :: rest => .ok ([], offset + 1, rest)
  | 0, offset, _ => .error ⟨.eofInString, offset⟩
  | steps + 1, offset, '\\' :: rest => do
    let (c, offset, rest) ← escape (offset + 1) rest
    let (cs, offset, rest) ← stringBody steps offset rest
    return (c :: cs, offset, rest)
  | steps + 1, offset, c :: rest =>
    if c.toNat < 32 then .error ⟨.controlCharacter, offset + 1⟩
    else do
      let (cs, offset, rest) ← stringBody steps (offset + c.utf8Size) rest
      return (c :: cs, offset, rest)

/-- The end of a string that is only passed over, after its opening quote. -/
def passString : Nat → Nat → List Char → Except Fault (Nat × List Char)
  | _, offset, [] => .error ⟨.eofInString, offset⟩
  | _, offset, '"' :: rest => .ok (offset + 1, rest)
  | 0, offset, _ => .error ⟨.eofInString, offset⟩
  | steps + 1, offset, '\\' :: rest => do
    let (offset, rest) ← passEscape (offset + 1) rest
    passString steps offset rest
  | steps + 1, offset, c :: rest =>
    if c.toNat < 32 then .error ⟨.controlCharacter, offset⟩
    else passString steps (offset + c.utf8Size) rest

def scanString (offset : Nat) (cs : List Char) : Scanned String :=
  Scanned.of
    ((stringBody cs.length offset cs).map (fun (body, after) => (String.ofList body, after)))
    (passString cs.length offset cs)

/-! ### Numbers -/

/-- A number as it is read: whole numbers of at most 64 bits are kept, others are approximated. -/
inductive Number where
  | whole (n : Int)
  | real (x : Decimal.Binary64)
  deriving DecidableEq, Repr

/-- A significand of at most 64 bits after as many of the digits as it can take up; the number of
digits taken up, and the digits left. -/
def significand : Nat → List Char → Nat × Nat × List Char
  | start, [] => (start, 0, [])
  | start, c :: rest =>
    if c.isDigit then
      let next := start * 10 + (c.toNat - 48)
      if next ≤ Decimal.maxU64 then
        let (value, taken, left) := significand next rest
        (value, taken + 1, left)
      else (start, 0, c :: rest)
    else (start, 0, c :: rest)

def scaled : Nat → Decimal.Binary64 → Int → Option Decimal.Binary64
  | 0, x, _ => some x
  | steps + 1, x, power =>
    if power.natAbs ≤ 308 then do
      let factor ← Decimal.Binary64.powerOfTen? power.natAbs
      if 0 ≤ power then x.times? factor else x.over? factor
    else if x.mantissa = 0 then some x
    else if 0 ≤ power then none
    else do
      let factor ← Decimal.Binary64.powerOfTen? 308
      scaled steps (← x.over? factor) (power + 308)

def real? (negative : Bool) (value : Nat) (power : Int) : Option Number := do
  let x ← scaled 8 (← Decimal.Binary64.ofQuotient? value 1) power
  return .real { x with negative := negative }

def whole (negative : Bool) (value : Nat) : Number :=
  if !negative then .whole value
  else if value = 0 ∨ Nat.pow 2 63 < value then
    match Decimal.Binary64.ofQuotient? value 1 with
    | some x => .real { x with negative := true }
    | none => .whole (-(value : Int))
  else .whole (-(value : Int))

/-- The digits of an exponent.  An exponent that no 32-bit number can hold makes the number zero or
too large. -/
def exponentDigits (n offset : Nat) : List Char → Except Nat (Nat × Nat × List Char)
  | [] => .ok (n, offset, [])
  | c :: rest =>
    if c.isDigit then
      let next := n * 10 + (c.toNat - 48)
      if next ≤ 2147483647 then exponentDigits next (offset + 1) rest
      else .error (offset + 1)
    else .ok (n, offset, c :: rest)

def exponentPart (negative : Bool) (value : Nat) (power : Int) (offset : Nat) (cs : List Char) :
    Except Fault (Number × Nat × List Char) :=
  let (down, offset, cs) := match cs with
    | '+' :: rest => (false, offset + 1, rest)
    | '-' :: rest => (true, offset + 1, rest)
    | _ => (false, offset, cs)
  match cs with
  | [] => .error ⟨.eofInValue, offset⟩
  | c :: _ =>
    if !c.isDigit then .error ⟨.invalidNumber, offset + 1⟩
    else
      match exponentDigits 0 offset cs with
      | .ok (n, offset, rest) =>
        match real? negative value (if down then power - n else power + n) with
        | some number => .ok (number, offset, rest)
        | none => .error ⟨.numberOutOfRange, offset⟩
      | .error reached =>
        if value ≠ 0 ∧ !down then .error ⟨.numberOutOfRange, reached⟩
        else
          let all := cs.takeWhile Char.isDigit
          .ok (.real ⟨negative, 0, Decimal.Binary64.leastExponent⟩, offset + all.length,
            cs.drop all.length)

def withExponent (negative : Bool) (value : Nat) (power : Int) (offset : Nat) (cs : List Char) :
    Except Fault (Number × Nat × List Char) :=
  match cs with
  | 'e' :: rest | 'E' :: rest => exponentPart negative value power (offset + 1) rest
  | _ =>
    match real? negative value power with
    | some number => .ok (number, offset, cs)
    | none => .error ⟨.numberOutOfRange, offset⟩

def fractionPart (negative : Bool) (value : Nat) (power : Int) (offset : Nat) (cs : List Char) :
    Except Fault (Number × Nat × List Char) :=
  match cs with
  | [] => .error ⟨.eofInValue, offset⟩
  | c :: _ =>
    if !c.isDigit then .error ⟨.invalidNumber, offset + 1⟩
    else
      let (value, taken, _) := significand value cs
      let all := cs.takeWhile Char.isDigit
      withExponent negative value (power - taken) (offset + all.length) (cs.drop all.length)

def magnitude (negative : Bool) (offset : Nat) (cs : List Char) :
    Except Fault (Number × Nat × List Char) :=
  match cs with
  | [] => .error ⟨.eofInValue, offset⟩
  | c :: rest =>
    if !c.isDigit then .error ⟨.invalidNumber, offset + 1⟩
    else if c == '0' && rest.head?.any Char.isDigit then .error ⟨.invalidNumber, offset + 2⟩
    else
      let (value, taken, _) := significand 0 cs
      let all := cs.takeWhile Char.isDigit
      let after := cs.drop all.length
      let offset := offset + all.length
      let power : Int := (all.length - taken : Nat)
      match after with
      | '.' :: rest => fractionPart negative value power (offset + 1) rest
      | 'e' :: rest | 'E' :: rest => exponentPart negative value power (offset + 1) rest
      | _ =>
        if power = 0 then .ok (whole negative value, offset, after)
        else withExponent negative value power offset after

def passExponent (offset : Nat) (cs : List Char) : Except Fault (Nat × List Char) :=
  let (offset, cs) := match cs with
    | '+' :: rest | '-' :: rest => (offset + 1, rest)
    | _ => (offset, cs)
  if cs.head?.any Char.isDigit then
    let all := cs.takeWhile Char.isDigit
    .ok (offset + all.length, cs.drop all.length)
  else .error ⟨.invalidNumber, ahead offset cs⟩

def passMagnitude (offset : Nat) (cs : List Char) : Except Fault (Nat × List Char) :=
  match cs with
  | [] => .error ⟨.invalidNumber, offset⟩
  | c :: rest =>
    if !c.isDigit then .error ⟨.invalidNumber, offset + 1⟩
    else if c == '0' && rest.head?.any Char.isDigit then .error ⟨.invalidNumber, offset + 2⟩
    else
      let all := cs.takeWhile Char.isDigit
      let offset := offset + all.length
      match cs.drop all.length with
      | '.' :: rest =>
        if rest.head?.any Char.isDigit then
          let more := rest.takeWhile Char.isDigit
          let offset := offset + 1 + more.length
          match rest.drop more.length with
          | 'e' :: rest | 'E' :: rest => passExponent (offset + 1) rest
          | rest => .ok (offset, rest)
        else .error ⟨.invalidNumber, ahead (offset + 1) rest⟩
      | 'e' :: rest | 'E' :: rest => passExponent (offset + 1) rest
      | rest => .ok (offset, rest)

def scanNumber (offset : Nat) (cs : List Char) : Scanned Number :=
  match cs with
  | '-' :: rest => Scanned.of (magnitude true (offset + 1) rest) (passMagnitude (offset + 1) rest)
  | _ => Scanned.of (magnitude false offset cs) (passMagnitude offset cs)

end Vouch.Json
