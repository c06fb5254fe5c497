import Vouch.Text.Ascii
import Vouch.Time.Written

/-!
Local time zones with a fixed offset from universal time, as named by rules such as
`<+0530>-5:30`.  A rule gives the offset with its sign turned round: west is positive.
-/

namespace Vouch.Time

/-- A fixed offset of local time, in seconds east of universal time. -/
structure Zone where
  east : Int
  deriving DecidableEq, Repr

namespace Zone

def utc : Zone := ⟨0⟩

/-- A name in angle brackets or of letters alone, and what follows it. -/
def afterName? : List Char → Option (List Char)
  | '<' :: rest =>
    match rest.dropWhile (fun c => c.isAlphanum || c == '+' || c == '-') with
    | '>' :: after => some after
    | _ => none
  | cs =>
    if cs.takeWhile Text.isAsciiLetter = [] then none
    else some (cs.dropWhile Text.isAsciiLetter)

def number? (limit : Nat) (cs : List Char) : Option (Nat × List Char) :=
  match Decimal.natural? limit (cs.takeWhile Char.isDigit) with
  | some n => some (n, cs.dropWhile Char.isDigit)
  | none => none

def span? (cs : List Char) : Option Nat := do
  let (hours, rest) ← number? 24 cs
  match rest with
  | [] => some (hours * 3600)
  | ':' :: rest =>
    let (minutes, rest) ← number? 59 rest
    match rest with
    | [] => some (hours * 3600 + minutes * 60)
    | ':' :: rest =>
      let (seconds, rest) ← number? 59 rest
      if rest = [] then some (hours * 3600 + minutes * 60 + seconds) else none
    | _ => none
  | _ => none

def ofRule? (rule : String) : Option Zone := do
  match ← afterName? rule.toList with
  | '-' :: rest => (span? rest).map (fun n => ⟨n⟩)
  | '+' :: rest => (span? rest).map (fun n => ⟨-(n : Int)⟩)
  | rest => (span? rest).map (fun n => ⟨-(n : Int)⟩)

/-- The zone of a rule; a rule that names no fixed offset means universal time. -/
def ofRule (rule : String) : Zone :=
  (ofRule? rule).getD utc

def offsetChars (z : Zone) : List Char :=
  let minutes := (z.east.natAbs + 30) / 60
  (if z.east < 0 then '-' else '+') ::
    Decimal.padded 2 (minutes / 60) ++ ':' :: Decimal.padded 2 (minutes % 60)

def reading (z : Zone) (t : Instant) : Reading :=
  Reading.ofSeconds (t.seconds + z.east) t.nanos

def text (z : Zone) (t : Instant) : String :=
  String.ofList ((z.reading t).plainChars ++ ' ' :: z.offsetChars)

end Zone

end Vouch.Time
