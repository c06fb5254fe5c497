import Vouch.Time.Date

/-!
Instants of universal time, to the nanosecond, within the years -262143 to 262142.

A leap second is the second before it with a billion nanoseconds or more.
-/

namespace Vouch.Time

def firstSecond : Int := -8334601228800

def lastSecond : Int := 8210266876799

structure Instant where
  seconds : Int
  nanos : Nat
  in_range : firstSecond ≤ seconds ∧ seconds ≤ lastSecond
  nanos_lt : nanos < 2000000000
  deriving DecidableEq, Repr

namespace Instant

def epoch : Instant :=
  ⟨0, 0, by decide, by decide⟩

instance : Inhabited Instant := ⟨epoch⟩

def ofSeconds? (seconds : Int) : Option Instant :=
  if h : firstSecond ≤ seconds ∧ seconds ≤ lastSecond then some ⟨seconds, 0, h, by decide⟩ else none

def ofSeconds (seconds : Int) : Instant :=
  (ofSeconds? seconds).getD epoch

end Instant

structure Reading where
  date : Date
  hour : Nat
  minute : Nat
  second : Nat
  nanos : Nat
  deriving DecidableEq, Repr

namespace Reading

/-- What a clock shows that many seconds and nanoseconds after the epoch. -/
def ofSeconds (seconds : Int) (nanos : Nat) : Reading :=
  let day := seconds / 86400
  let ofDay := (seconds % 86400).toNat
  { date := Date.ofDayNumber day
    hour := ofDay / 3600
    minute := ofDay / 60 % 60
    second := ofDay % 60 + nanos / 1000000000
    nanos := nanos % 1000000000 }

def toSeconds (r : Reading) : Int :=
  86400 * r.date.dayNumber + 3600 * r.hour + 60 * r.minute + r.second

end Reading

def Instant.reading (t : Instant) : Reading :=
  Reading.ofSeconds t.seconds t.nanos

end Vouch.Time
