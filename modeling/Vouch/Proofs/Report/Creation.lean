import Mathlib.Data.List.Forall2
import Vouch.Proofs.Time.LocalTime
import Vouch.Report.Normal

/-!
The two times at which a new signature was made.

A report has the time in universal time and as a text in local time.  Both stand for the same instant,
whatever the engine gave: a number of seconds that no instant stands for is the epoch in both of them.
-/

namespace Vouch.Report

open Time (Instant LocalTime)

/-- Both times of an entry tell when the engine made the signature, in local time so many minutes ahead
of universal time. -/
structure NewSignature.TimesAgree (minutes : Int) (raw : Engine.NewSignature)
    (entry : NewSignature) : Prop where
  met : ∀ t : Instant, t.seconds = raw.timestamp.toInt → t.nanos = 0 → entry.createdAt = t
  unmet : (∀ t : Instant, t.seconds ≠ raw.timestamp.toInt) → entry.createdAt = .epoch
  whole : entry.createdAt.nanos = 0
  /-- The text is a date, a time of day and the offset, and stands for the same second. -/
  told : ∃ shown, LocalTime.read? entry.createdLocal = some shown ∧ shown.IsProper ∧
    shown.east = 60 * minutes ∧ shown.seconds = entry.createdAt.seconds

theorem NewSignature.timesAgree_ofEngine (minutes : Int) (db : Key.Snapshot)
    (raw : Engine.NewSignature) : TimesAgree minutes raw (ofEngine ⟨60 * minutes⟩ db raw) := by
  have whole := Instant.nanos_ofSeconds raw.timestamp.toInt
  constructor
  case met =>
    intro t same whole
    change Instant.ofSeconds raw.timestamp.toInt = t
    rw [← same, Instant.ofSeconds_seconds whole]
  case unmet => exact Instant.ofSeconds_of_unmet
  case whole => exact whole
  case told => exact LocalTime.exists_read?_text minutes (whole ▸ by decide)

/-- The times of all signatures that were made agree, in every zone whose offset is whole minutes. -/
theorem creation_times_agree (minutes : Int) (db : Key.Snapshot) (raw : Engine.SignResult) :
    List.Forall₂ (NewSignature.TimesAgree minutes) raw.newSignatures
      (Sign.ofEngine ⟨60 * minutes⟩ db raw).newSignatures := by
  change List.Forall₂ _ _ (raw.newSignatures.map (NewSignature.ofEngine ⟨60 * minutes⟩ db))
  rw [List.forall₂_map_right_iff, List.forall₂_same]
  exact fun made _ => NewSignature.timesAgree_ofEngine minutes db made

end Vouch.Report
