import Mathlib.Tactic
import Vouch.Proofs.Key.Found

/-!
What a database answers.

The index answers as if the keys were gone through anew for every question: from the last to the first
for a key with a name, and from the first to the last for one that ends with a short ID.  A key that was
found is told by its primary fingerprint, and a subkey only where it is not the primary key itself.
-/

namespace Vouch.Key

/-- The names of a key are its primary fingerprint, those of its subkeys, and the long IDs of these. -/
theorem Listed.mem_names_iff_spelled (key : Listed) (name : String) :
    name ∈ key.names ↔
      (name = normal key.fingerprint ∨ name = longId (normal key.fingerprint)) ∨
        ∃ subkey ∈ key.subkeys, name = normal subkey ∨ name = longId (normal subkey) := by
  simp [mem_names_iff, fingerprints, or_comm]

def Listed.subkeyId? (key : Listed) (name : String) : Option String :=
  if longId name = longId (normal key.fingerprint) then none else some (longId name)

theorem Listed.entry_eq_known (key : Listed) (name : String) :
    key.entry name = key.known (key.subkeyId? name) := rfl

theorem Listed.subkeyId?_ne (key : Listed) (name : String) :
    key.subkeyId? name ≠ some (longId (normal key.fingerprint)) := by
  unfold subkeyId?
  split_ifs with primary
  · exact nofun
  · intro same
    exact primary (Option.some.inj same)

theorem Listed.subkeyId?_of_primary (key : Listed) : key.subkeyId? (normal key.fingerprint) = none :=
  if_pos rfl

def firstEnding? (keys : List Listed) (id : String) : Option Listed :=
  keys.find? fun key => decide (id.toList <:+ (normal key.fingerprint).toList)

namespace Snapshot

variable {db : Snapshot} {name : String} {entry : Entry}

structure Distinct (entry : Entry) : Prop where
  primary : entry.reference.primaryId = longId entry.reference.fingerprint
  subkey : entry.reference.subkeyId ≠ some entry.reference.primaryId

theorem distinct_of_bind {found : Option Hit} (known : found.bind db.entryOf? = some entry) :
    Distinct entry := by
  obtain ⟨hit, _, listed⟩ := Option.bind_eq_some_iff.mp known
  obtain ⟨key, _, rfl⟩ := Option.map_eq_some_iff.mp listed
  rw [Listed.entry_eq_known]
  constructor
  · simp only [Listed.known]
  · simp only [Listed.known]
    exact key.subkeyId?_ne hit.name

theorem distinct_of_answer
    (answered : db.byFingerprint? name = some entry ∨ db.byKeyId? name = some entry ∨
      db.lookup name = some entry) : Distinct entry := by
  obtain by_name | by_id | looked_up := answered
  · exact distinct_of_bind by_name
  · exact distinct_of_bind by_id
  · exact distinct_of_bind looked_up

theorem find?_endsWith (keys : List Listed) (id : String) :
    (keys.find? fun key => endsWith key id) = firstEnding? keys id := by
  unfold firstEnding?
  congr 1
  funext key
  exact Bool.eq_iff_iff.mpr ((endsWith_iff key id).trans decide_eq_true_iff.symm)

/-- The answers to a name in normal form are those of a scan.  A name stands for the last key that has
it, an ID of eight bytes that is no name for the first key that ends with it, and the policy is asked by
the name and then by its long ID.  Every entry tells the primary key and a subkey apart. -/
theorem answers_as_scan (keys : List Listed) (id : String) (settled : normal id = id) :
    let db := ofKeys keys
    (∀ key ∈ keys, ∀ name, name ∈ key.names ↔
      (name = normal key.fingerprint ∨ name = longId (normal key.fingerprint)) ∨
        ∃ subkey ∈ key.subkeys, name = normal subkey ∨ name = longId (normal subkey)) ∧
    db.byFingerprint? id = (lastNamed? keys id).map (fun key => key.known (key.subkeyId? id)) ∧
    db.byKeyId? id =
      ((lastNamed? keys id).map fun key => key.known (key.subkeyId? id)).or
        (if id.utf8ByteSize = 8 then (firstEnding? keys id).map (·.known none) else none) ∧
    db.policy id =
      (((lastNamed? keys id).or (lastNamed? keys (longId id))).map Listed.policy).getD .unknown ∧
    ∀ name entry,
      db.byFingerprint? name = some entry ∨ db.byKeyId? name = some entry ∨
          db.lookup name = some entry →
        Distinct entry := by
  intro db
  refine ⟨fun key _ => key.mem_names_iff_spelled, ?_, ?_, ?_, fun name entry => distinct_of_answer⟩
  · rw [byFingerprint?, bind_named?, settled]
    simp only [Listed.entry_eq_known, db, ofKeys]
  · rw [byKeyId?_eq_scan, settled, settled, find?_endsWith]
    simp only [Listed.entry_eq_known, Listed.subkeyId?_of_primary, db, ofKeys]
  · rw [policy_eq_scan, settled]
    simp only [db, ofKeys]

/-- A key that has the fingerprint of an older one as its subkey, and a key without a fingerprint. -/
theorem answers_of_crowded_database :
    let alice := Listed.bare "AAAAAAAAAAAAAAAAAAAAAAAA0123456789ABCDEF" .full .good
    let bob :=
      { Listed.bare "0xbbbb" .never .bad with
        subkeys := ["aaaaaaaa aaaaaaaa aaaaaaaa 01234567 89abcdef"] }
    let carol := Listed.bare "" .marginal .unknown
    let db := ofKeys [alice, bob, carol]
    (normal "0123456789ABCDEF" = "0123456789ABCDEF" ∧ normal "89ABCDEF" = "89ABCDEF" ∧
        normal "" = "") ∧
      (db.byKeyId? "0123456789ABCDEF" = some (bob.known (some "0123456789ABCDEF")) ∧
        db.policy "0123456789ABCDEF" = .bad) ∧
      db.byKeyId? "89ABCDEF" = some (alice.known none) ∧
      db.byFingerprint? "" = some (carol.known none) := by
  intro alice bob carol db
  have long_settled : normal "0123456789ABCDEF" = "0123456789ABCDEF" := by decide +kernel
  have short_settled : normal "89ABCDEF" = "89ABCDEF" := by decide +kernel
  have empty_settled : normal "" = "" := by decide +kernel
  obtain ⟨_, _, by_long, policy, _⟩ := answers_as_scan [alice, bob, carol] _ long_settled
  obtain ⟨_, _, by_short, _⟩ := answers_as_scan [alice, bob, carol] _ short_settled
  obtain ⟨_, by_nothing, _⟩ := answers_as_scan [alice, bob, carol] _ empty_settled
  refine ⟨⟨long_settled, short_settled, empty_settled⟩, ⟨by_long.trans ?_, policy.trans ?_⟩,
    by_short.trans ?_, by_nothing.trans ?_⟩
  all_goals decide +kernel

end Snapshot

end Vouch.Key
