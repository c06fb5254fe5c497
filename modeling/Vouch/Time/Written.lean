import Vouch.Decimal
import Vouch.Time.Instant

/-!
How readings of a clock are written: the parts common to all forms, the form with a `T` and a `Z`
that documents use, and the form with blanks that people read.
-/

namespace Vouch.Time

/-- Four digits for the years 0 to 9999; other years have a sign and at least four digits. -/
def yearChars (year : Int) : List Char :=
  if 0 ≤ year ∧ year ≤ 9999 then Decimal.padded 4 year.toNat
  else (if year < 0 then '-' else '+') :: Decimal.padded 4 year.natAbs

def Date.chars (d : Date) : List Char :=
  yearChars d.year ++ '-' :: Decimal.padded 2 d.month ++ '-' :: Decimal.padded 2 d.day

def Reading.clockChars (r : Reading) : List Char :=
  Decimal.padded 2 r.hour ++ ':' :: Decimal.padded 2 r.minute ++ ':' :: Decimal.padded 2 r.second

/-- A fraction of a second with three, six or nine digits, as few as are exact. -/
def fractionChars (nanos : Nat) : List Char :=
  if nanos = 0 then []
  else if nanos % 1000000 = 0 then '.' :: Decimal.padded 3 (nanos / 1000000)
  else if nanos % 1000 = 0 then '.' :: Decimal.padded 6 (nanos / 1000)
  else '.' :: Decimal.padded 9 nanos

def Instant.chars (t : Instant) : List Char :=
  t.reading.date.chars ++ 'T' :: t.reading.clockChars ++ fractionChars t.reading.nanos ++ ['Z']

def Instant.text (t : Instant) : String :=
  String.ofList t.chars

def Reading.plainChars (r : Reading) : List Char :=
  r.date.chars ++ ' ' :: r.clockChars

def Instant.plainText (t : Instant) : String :=
  String.ofList (t.reading.plainChars ++ [' ', 'U', 'T', 'C'])

end Vouch.Time
