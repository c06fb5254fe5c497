import Mathlib.Tactic
import Vouch.Proofs.Key.Extended
import Vouch.Proofs.Key.Reassigned
import Vouch.Proofs.Verdict.Account
import Vouch.Proofs.Verdict.FullyValid

/-!
What comes of the advice that a verdict gives.

A lack of trust is given as the reason exactly where full owner trust in the one key would mend it.
A conflict of policies is given exactly where no owner trust would, though nothing but trust is in the
way.  To fetch the keys of the unknown signers leaves no signature without a key, unless its signer has
no name at all.
-/

namespace Vouch.Verdict

open Key (Hit Listed Snapshot longId normal)
open Signature (Record)

structure Unblemished (record : Record) : Prop where
  good : record.status = .good
  unrevoked : record.keyState.revoked = false
  unexpired : record.keyState.expired = false

theorem ground_eq_tofuConflict_iff (record : Record) :
    (disqualifier record).map Prod.fst = some .tofuConflict ↔
      Unblemished record ∧ record.trust.source = .tofu ∧ record.policy = .bad := by
  constructor
  · intro found
    unfold disqualifier at found
    cases status : record.status <;> rw [status] at found <;> try cases found
    dsimp only [Ground.ofStatus?] at found
    split_ifs at found with revoked expired conflict <;> try cases found
    exact ⟨⟨status, Bool.not_eq_true _ ▸ revoked, Bool.not_eq_true _ ▸ expired⟩, conflict⟩
  · rintro ⟨⟨good, unrevoked, unexpired⟩, conflict⟩
    simp [disqualifier, Ground.ofStatus?, good, unrevoked, unexpired, conflict]

theorem ground_eq_insufficientTrust_iff (record : Record) :
    (disqualifier record).map Prod.fst = some .insufficientTrust ↔
      Unblemished record ∧ ¬(record.trust.source = .tofu ∧ record.policy = .bad) ∧
        record.trust.isSufficient = false := by
  constructor
  · intro found
    unfold disqualifier at found
    cases status : record.status <;> rw [status] at found <;> try cases found
    dsimp only [Ground.ofStatus?] at found
    split_ifs at found with revoked expired conflict distrust <;> try cases found
    exact ⟨⟨status, Bool.not_eq_true _ ▸ revoked, Bool.not_eq_true _ ▸ expired⟩, conflict,
      Bool.not_eq_true' _ ▸ distrust⟩
  · rintro ⟨⟨good, unrevoked, unexpired⟩, undisputed, distrust⟩
    simp only [disqualifier, Ground.ofStatus?, good, unrevoked, unexpired, if_neg undisputed,
      distrust]
    rfl

structure Usable (raw : Engine.Signature) (key : Listed) : Prop where
  code : Engine.codeOf raw.status = 0
  summary : ∀ bit ∈ Engine.adverseBits, raw.summary &&& bit = 0
  unrevoked : key.revoked = false
  unexpired : key.expired = false

section
variable {db : Snapshot} {raw : Engine.Signature} {hit : Hit} {key : Listed}

theorem unblemished_build_iff (known : db.lookup raw.fingerprint = some (key.entry hit.name)) :
    Unblemished (Record.build db raw) ↔ Usable raw key := by
  have good := Engine.statusOf_eq_good_iff raw.status raw.summary
  rw [← Record.status_build_of_known known] at good
  have state := Record.keyState_build_of_known known
  constructor
  · rintro ⟨status, unrevoked, unexpired⟩
    rw [state] at unrevoked unexpired
    exact ⟨(good.mp status).1, (good.mp status).2, unrevoked, unexpired⟩
  · rintro ⟨code, summary, unrevoked, unexpired⟩
    exact ⟨good.mpr ⟨code, summary⟩, by rw [state]; exact unrevoked, by rw [state]; exact unexpired⟩

theorem policy_build_of_found (known : db.lookup raw.fingerprint = some (key.entry hit.name)) :
    (Record.build db raw).policy = db.policy (longId (normal key.fingerprint)) := by
  rw [Record.policy_build_of_known known, Listed.primaryId_entry]

theorem isFullyValid_iff_of_found (known : db.lookup raw.fingerprint = some (key.entry hit.name)) :
    (Record.build db raw).isFullyValid = true ↔
      Usable raw key ∧
        Key.Trusted key.ownerTrust (db.policy (longId (normal key.fingerprint))) := by
  rw [Record.isFullyValid_build_iff, Record.vouched_iff_of_known known]
  constructor
  · rintro ⟨code, summary, unrevoked, unexpired, trusted⟩
    exact ⟨⟨code, summary, unrevoked, unexpired⟩, trusted⟩
  · rintro ⟨⟨code, summary, unrevoked, unexpired⟩, trusted⟩
    exact ⟨code, summary, unrevoked, unexpired, trusted⟩

/-- A bad policy is the source of the trust itself, so that it always is a conflict. -/
theorem conflict_evaluate_iff (owner : Key.TrustLevel) (policy : Key.TofuPolicy) :
    ((Key.Trust.evaluate owner policy).source = .tofu ∧ policy = .bad) ↔ policy = .bad := by
  refine and_iff_right_of_imp ?_
  rintro rfl
  rw [Key.evaluate_bad]

theorem tofuConflict_iff_of_found (known : db.lookup raw.fingerprint = some (key.entry hit.name)) :
    (disqualifier (Record.build db raw)).map Prod.fst = some .tofuConflict ↔
      Usable raw key ∧ db.policy (longId (normal key.fingerprint)) = .bad := by
  rw [ground_eq_tofuConflict_iff, unblemished_build_iff known]
  rw [Record.trust_build, conflict_evaluate_iff, policy_build_of_found known]

theorem insufficientTrust_iff_of_found
    (known : db.lookup raw.fingerprint = some (key.entry hit.name)) :
    (disqualifier (Record.build db raw)).map Prod.fst = some .insufficientTrust ↔
      Usable raw key ∧ db.policy (longId (normal key.fingerprint)) ≠ .bad ∧
        ¬Key.Trusted key.ownerTrust (db.policy (longId (normal key.fingerprint))) := by
  rw [ground_eq_insufficientTrust_iff, unblemished_build_iff known]
  have owner : (Record.build db raw).keyState.ownerTrust = key.ownerTrust := by
    rw [Record.keyState_build_of_known known]
    rfl
  have enough := Key.isSufficient_evaluate_iff key.ownerTrust
    (db.policy (longId (normal key.fingerprint)))
  rw [Record.trust_build, owner, policy_build_of_found known, conflict_evaluate_iff, ← enough,
    Bool.not_eq_true]

theorem usable_withTrust_iff (level : Key.TrustLevel) (policy : Key.TofuPolicy) :
    Usable raw { key with ownerTrust := level, policy } ↔ Usable raw key :=
  ⟨fun usable => ⟨usable.code, usable.summary, usable.unrevoked, usable.unexpired⟩,
    fun usable => ⟨usable.code, usable.summary, usable.unrevoked, usable.unexpired⟩⟩

end

theorem trusted_full_iff (policy : Key.TofuPolicy) :
    Key.Trusted .full policy ↔ policy ≠ .bad := by
  simp [Key.Trusted]

section
variable (db : Snapshot) (raw : Engine.Signature)

theorem not_isFullyValid_of_unresolved (missed : db.resolve? raw.fingerprint = none) :
    (Record.build db raw).isFullyValid = false := by
  have unknown : db.lookup raw.fingerprint = none := by rw [Snapshot.lookup, missed]; rfl
  simp [Record.isFullyValid, Record.status_build_of_unknown unknown, Signature.Status.isGood]

theorem ground_of_unresolved (missed : db.resolve? raw.fingerprint = none) :
    (disqualifier (Record.build db raw)).map Prod.fst = some .missingKey := by
  have unknown : db.lookup raw.fingerprint = none := by rw [Snapshot.lookup, missed]; rfl
  simp [disqualifier, Record.status_build_of_unknown unknown, Ground.ofStatus?]

/-- Trust is lacking exactly where full owner trust in the key of the signer would suffice. -/
theorem insufficientTrust_iff_mended :
    (disqualifier (Record.build db raw)).map Prod.fst = some .insufficientTrust ↔
      (Record.build db raw).isFullyValid = false ∧
        ∃ hit, db.resolve? raw.fingerprint = some hit ∧
          (Record.build (db.withOwnerTrust hit.position .full) raw).isFullyValid = true := by
  cases found : db.resolve? raw.fingerprint with
  | none => simp [ground_of_unresolved db raw found]
  | some hit =>
    obtain ⟨key, listed⟩ := Snapshot.exists_listed_of_resolve? found
    have known := Snapshot.lookup_of_resolve? found listed
    have same := Snapshot.sameButTrust_withOwnerTrust db hit.position .full
    have listed' : (db.withOwnerTrust hit.position .full).keys[hit.position]? =
        some { key with ownerTrust := .full } := by
      rw [Snapshot.getElem?_withOwnerTrust, listed, Option.map_some, if_pos rfl]
    have known' := Snapshot.lookup_of_resolve? ((same.resolve?_eq _).trans found) listed'
    have mended := isFullyValid_iff_of_found known'
    rw [usable_withTrust_iff, Snapshot.policy_withOwnerTrust, trusted_full_iff] at mended
    rw [insufficientTrust_iff_of_found known, ← Bool.not_eq_true, isFullyValid_iff_of_found known]
    constructor
    · rintro ⟨usable, tolerated, distrust⟩
      exact ⟨fun valid => distrust valid.2, hit, rfl, mended.mpr ⟨usable, tolerated⟩⟩
    · rintro ⟨invalid, other, again, valid⟩
      cases again
      obtain ⟨usable, tolerated⟩ := mended.mp valid
      exact ⟨usable, tolerated, fun trusted => invalid ⟨usable, trusted⟩⟩

/-- Policies conflict exactly where no owner trust helps though nothing but trust is in the way. -/
theorem tofuConflict_iff_beyond_ownerTrust :
    (disqualifier (Record.build db raw)).map Prod.fst = some .tofuConflict ↔
      (∀ levels, (Record.build (db.withOwnerTrusts levels) raw).isFullyValid = false) ∧
        (Record.build db.allTrusted raw).isFullyValid = true := by
  have same := Snapshot.sameButTrust_allTrusted db
  cases found : db.resolve? raw.fingerprint with
  | none =>
    have missed := (same.resolve?_eq _).trans found
    simp [ground_of_unresolved db raw found, not_isFullyValid_of_unresolved _ _ missed]
  | some hit =>
    obtain ⟨key, listed⟩ := Snapshot.exists_listed_of_resolve? found
    have known := Snapshot.lookup_of_resolve? found listed
    have trusting : (Record.build db.allTrusted raw).isFullyValid = true ↔ Usable raw key := by
      have listed' : db.allTrusted.keys[hit.position]? =
          some { key with ownerTrust := .full, policy := .good } := by
        rw [Snapshot.getElem?_allTrusted, listed, Option.map_some]
      have known' := Snapshot.lookup_of_resolve? ((same.resolve?_eq _).trans found) listed'
      rw [isFullyValid_iff_of_found known', usable_withTrust_iff, trusted_full_iff]
      exact and_iff_left (Snapshot.policy_allTrusted_ne_bad db _)
    have assigned : ∀ levels, (Record.build (db.withOwnerTrusts levels) raw).isFullyValid = true ↔
        Usable raw key ∧ Key.Trusted (levels hit.position)
          (db.policy (longId (normal key.fingerprint))) := by
      intro levels
      have same' := Snapshot.sameButTrust_withOwnerTrusts db levels
      have listed' : (db.withOwnerTrusts levels).keys[hit.position]? =
          some { key with ownerTrust := levels hit.position } := by
        rw [Snapshot.getElem?_withOwnerTrusts, listed, Option.map_some]
      have known' := Snapshot.lookup_of_resolve? ((same'.resolve?_eq _).trans found) listed'
      rw [isFullyValid_iff_of_found known', usable_withTrust_iff, Snapshot.policy_withOwnerTrusts]
    rw [tofuConflict_iff_of_found known, trusting]
    constructor
    · rintro ⟨usable, bad⟩
      refine ⟨?_, usable⟩
      intro levels
      rw [← Bool.not_eq_true, assigned, bad]
      exact fun valid => valid.2.1 rfl
    · rintro ⟨never, usable⟩
      refine ⟨usable, ?_⟩
      -- Full owner trust in every key fails only against a bad policy.
      by_contra tolerated
      have valid := (assigned fun _ => .full).mpr ⟨usable, (trusted_full_iff _).mpr tolerated⟩
      rw [never] at valid
      cases valid

end

section
variable (zone : Time.Zone) (db : Snapshot) (result : Engine.VerifyResult) (position : Nat)

def ValidAt : Prop :=
  ∃ record, (Report.ofEngine zone db (.verify result)).signatures[position]? = some record ∧
    record.isFullyValid = true

/-- The verdict on a verification advises what the ground calls for at the position. -/
def Advises (ground : Ground) : Prop :=
  ∃ reason ∈ (ofReport (Report.ofEngine zone db (.verify result))).reasons,
    reason.index = some position ∧ reason.ground = ground ∧ reason.hint = ground.hint

theorem validAt_iff : ValidAt zone db result position ↔
    ∃ raw, result.signatures[position]? = some raw ∧
      (Record.build db raw).isFullyValid = true := by
  have signatures : (Report.ofEngine zone db (.verify result)).signatures =
      result.signatures.map (Record.build db) := Report.signatures_ofEngine zone db _
  unfold ValidAt
  rw [signatures, List.getElem?_map]
  simp only [Option.map_eq_some_iff]
  constructor
  · rintro ⟨_, ⟨raw, listed, rfl⟩, valid⟩
    exact ⟨raw, listed, valid⟩
  · rintro ⟨raw, listed, valid⟩
    exact ⟨_, ⟨raw, listed, rfl⟩, valid⟩

theorem advises_iff (ground : Ground) : Advises zone db result position ground ↔
    ∃ raw, result.signatures[position]? = some raw ∧
      (disqualifier (Record.build db raw)).map Prod.fst = some ground := by
  have reasons := reasonsAt_ofReport (Report.ofEngine zone db (.verify result)) position
  have signatures : (Report.ofEngine zone db (.verify result)).signatures =
      result.signatures.map (Record.build db) := Report.signatures_ofEngine zone db _
  rw [signatures, List.getElem?_map] at reasons
  have told : ∀ reason, reason ∈ (ofReport (Report.ofEngine zone db (.verify result))).reasons ∧
      reason.index = some position ↔
        ∃ raw, result.signatures[position]? = some raw ∧
          ∃ finding, disqualifier (Record.build db raw) = some finding ∧
            .ofSignature position (Record.build db raw) finding.1 finding.2 = reason := by
    intro reason
    have kept : reason ∈ (ofReport (Report.ofEngine zone db (.verify result))).reasonsAt position ↔
        reason ∈ (ofReport (Report.ofEngine zone db (.verify result))).reasons ∧
          reason.index = some position := by
      rw [reasonsAt, List.mem_filter, beq_iff_eq]
    rw [← kept, reasons, Option.mem_toList, Option.bind_eq_some_iff]
    simp only [Option.map_eq_some_iff, Tally.Step.reason?]
    constructor
    · rintro ⟨_, ⟨raw, listed, rfl⟩, finding, found, told⟩
      exact ⟨raw, listed, finding, found, told⟩
    · rintro ⟨raw, listed, finding, found, told⟩
      exact ⟨_, ⟨raw, listed, rfl⟩, finding, found, told⟩
  unfold Advises
  constructor
  · rintro ⟨reason, listed, indexed, rfl, _⟩
    obtain ⟨raw, at_position, finding, found, rfl⟩ := (told reason).mp ⟨listed, indexed⟩
    exact ⟨raw, at_position, by rw [found]; rfl⟩
  · rintro ⟨raw, at_position, found⟩
    obtain ⟨finding, disqualifies, rfl⟩ := Option.map_eq_some_iff.mp found
    obtain ⟨listed, indexed⟩ := (told _).mpr ⟨raw, at_position, finding, disqualifies, rfl⟩
    exact ⟨_, listed, indexed, rfl, rfl⟩

/-- The advice of a verdict holds what it promises.  It is to adjust the trust in a key exactly if the
signature is not fully valid, but would be with full owner trust in the one key that it resolves to.
It is to review a policy exactly if no owner trust in any keys would make the signature fully valid,
but full owner trust and a good policy of all keys would. -/
theorem advice_holds :
    (Advises zone db result position .insufficientTrust ↔
      ¬ValidAt zone db result position ∧
        ∃ raw hit, result.signatures[position]? = some raw ∧
          db.resolve? raw.fingerprint = some hit ∧
          ValidAt zone (db.withOwnerTrust hit.position .full) result position) ∧
    (Advises zone db result position .tofuConflict ↔
      (∀ levels, ¬ValidAt zone (db.withOwnerTrusts levels) result position) ∧
        ValidAt zone db.allTrusted result position) := by
  simp only [advises_iff, validAt_iff, insufficientTrust_iff_mended,
    tofuConflict_iff_beyond_ownerTrust]
  cases result.signatures[position]? with
  | none => simp
  | some raw => simp

/-- A signer that the database does not know is listed by the normal form of its name. -/
theorem mem_unknownSigners {db : Snapshot} {result : Engine.VerifyResult} {raw : Engine.Signature}
    (listed : raw ∈ result.signatures) (unknown : db.lookup raw.fingerprint = none) :
    normal raw.fingerprint ∈
      (ofReport (Report.ofEngine zone db (.verify result))).unknownSigners := by
  rw [ofReport, Tally.unknownSigners_finish_ofSteps, recordsOf_stepsOf, Report.signatures_ofEngine,
    List.mem_eraseDups, missingSigners]
  refine List.mem_map.mpr ⟨Record.build db raw, List.mem_filter.mpr ⟨?_, ?_⟩, ?_⟩
  · exact List.mem_map_of_mem listed
  · rw [Record.status_build_of_unknown unknown]
    rfl
  · simp [Record.build, unknown, Key.Reference.ofName]

/-- To fetch the keys of the unknown signers closes the loop.  Once the database is extended with a key
for each fingerprint that the verdict lists, in any order and whatever else these keys hold, every
signature whose signer has a name is found and is classified as the engine reports it, and none that
was found before is lost. -/
theorem found_after_fetching (added : List Listed)
    (fetched : (added.map Listed.fingerprint).Perm
      (ofReport (Report.ofEngine zone db (.verify result))).unknownSigners) (raw : Engine.Signature)
    (listed : result.signatures[position]? = some raw) :
    ∃ record,
      (Report.ofEngine zone (db.extended added) (.verify result)).signatures[position]? =
        some record ∧
      (normal raw.fingerprint ≠ "" →
        ((db.extended added).lookup raw.fingerprint).isSome = true ∧
          record.status = Engine.statusOf raw.status raw.summary) ∧
      ((db.lookup raw.fingerprint).isSome = true →
        ((db.extended added).lookup raw.fingerprint).isSome = true) := by
  refine ⟨Record.build (db.extended added) raw, ?_, ?_, ?_⟩
  · rw [Report.signatures_ofEngine, List.getElem?_map]
    exact congrArg _ listed
  · intro inhabited
    have found : ((db.extended added).lookup raw.fingerprint).isSome = true := by
      cases known : db.lookup raw.fingerprint with
      | some entry => exact Snapshot.lookup_extended_isSome (by rw [known]; rfl) added
      | none =>
        have asked := mem_unknownSigners zone (List.mem_of_getElem? listed) known
        obtain ⟨key, member, fingerprint⟩ := List.mem_map.mp (fetched.mem_iff.mpr asked)
        exact Snapshot.lookup_extended_of_mem member fingerprint inhabited
    obtain ⟨entry, known⟩ := Option.isSome_iff_exists.mp found
    exact ⟨found, Record.status_build_of_known known⟩
  · exact fun found => Snapshot.lookup_extended_isSome found added

end

/-- Two signers that are not known, one of them by a name whose normal form still has a mark.  Their
keys are added in the other order. -/
theorem found_after_fetching_marked_name :
    let fingerprint := "0123456789ABCDEF0123456789ABCDEF01234567"
    let marked := Engine.Signature.clean "0x0X89abcdef01234567"
    let result : Engine.VerifyResult := ⟨none, none, [marked, .clean fingerprint]⟩
    let added := [Listed.bare fingerprint .full .unknown,
      Listed.bare "0X89ABCDEF01234567" .unknown .bad]
    (added.map Listed.fingerprint).Perm
        (ofReport (Report.ofEngine .utc .empty (.verify result))).unknownSigners ∧
      normal marked.fingerprint ≠ "" ∧
      ∃ record, (Report.ofEngine .utc (Snapshot.empty.extended added) (.verify result)).signatures[0]?
        = some record ∧ record.status = .good := by
  intro fingerprint marked result added
  have fetched : (added.map Listed.fingerprint).Perm
      (ofReport (Report.ofEngine .utc .empty (.verify result))).unknownSigners := by decide +kernel
  have inhabited : normal marked.fingerprint ≠ "" := by decide +kernel
  obtain ⟨record, listed, found, _⟩ :=
    found_after_fetching .utc .empty result 0 added fetched marked rfl
  exact ⟨fetched, inhabited, record, listed, (found inhabited).2.trans (by decide +kernel)⟩

end Vouch.Verdict
