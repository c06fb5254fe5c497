import Mathlib.Tactic
import Vouch.Proofs.Key.Inserted
import Vouch.Proofs.Key.Spelling

/-!
What a key is found by.

In a database in which no two fingerprints have the same end, every spelling of every name of a key
finds that key, and a name that no key has finds nothing.
-/

namespace Vouch.Key

/-- The last eight characters, or all of fewer. -/
def shortId (name : String) : String :=
  String.ofList (name.toList.drop (name.toList.length - 8))

def Listed.known (key : Listed) (subkeyId : Option String) : Entry :=
  { reference :=
      { primaryId := longId (normal key.fingerprint)
        subkeyId
        fingerprint := normal key.fingerprint
        algorithm := key.algorithm
        bits := key.bits }
    uid := key.uid
    state :=
      { present := true
        revoked := key.revoked
        expired := key.expired
        disabled := key.disabled
        ownerTrust := key.ownerTrust } }

theorem Listed.entry_of_primary {key : Listed} {name : String}
    (primary : longId name = longId (normal key.fingerprint)) : key.entry name = key.known none := by
  rw [entry, if_pos primary]
  rfl

theorem Listed.entry_of_subkey {key : Listed} {name : String}
    (other : longId name ≠ longId (normal key.fingerprint)) :
    key.entry name = key.known (some (longId name)) := by
  rw [entry, if_neg other]
  rfl

namespace Snapshot

/-- No two fingerprints of the database share a long ID, and no two primary ones a short ID. -/
structure Apart (db : Snapshot) : Prop where
  longIds : (db.keys.flatMap fun key => key.fingerprints.map longId).Nodup
  shortIds : (db.keys.map fun key => shortId (normal key.fingerprint)).Nodup

variable {db : Snapshot} {key : Listed} {name text : String}

theorem Apart.eq_of_longId_eq (apart : db.Apart) {other : Listed} {own foreign : String}
    (listed : key ∈ db.keys) (listed' : other ∈ db.keys) (member : own ∈ key.fingerprints)
    (member' : foreign ∈ other.fingerprints) (same : longId own = longId foreign) :
    key = other := by
  by_contra differ
  have symm : Std.Symm
      (Function.onFun List.Disjoint fun key : Listed => key.fingerprints.map longId) :=
    ⟨fun _ _ disjoint => disjoint.symm⟩
  have disjoint := (List.nodup_flatMap.mp apart.longIds).2.forall listed listed' differ
  have shared : longId foreign ∈ key.fingerprints.map longId := by
    rw [← same]
    exact List.mem_map_of_mem member
  exact disjoint shared (List.mem_map_of_mem member')

theorem Apart.longId_subkey_ne (apart : db.Apart) (listed : key ∈ db.keys) {subkey : String}
    (member : subkey ∈ key.subkeys) :
    longId (normal subkey) ≠ longId (normal key.fingerprint) := by
  have nodup := (List.nodup_flatMap.mp apart.longIds).1 key listed
  rw [Listed.fingerprints, List.map_cons, List.nodup_cons] at nodup
  intro same
  apply nodup.1
  rw [← same]
  exact List.mem_map_of_mem (List.mem_map_of_mem member)

theorem length_of_mem_names (canonical : db.Canonical) (listed : key ∈ db.keys)
    (named : name ∈ key.names) :
    IsDigits name ∧ (name.toList.length = 16 ∨ name.toList.length = 40) := by
  obtain ⟨own, member, rfl | rfl⟩ := (key.mem_names_iff name).mp named
  · have fingerprint := canonical key listed own member
    exact ⟨isDigits_longId (isDigits_of_isFingerprint fingerprint),
      .inl (length_longId_of_isFingerprint fingerprint)⟩
  · have fingerprint := canonical key listed name member
    exact ⟨isDigits_of_isFingerprint fingerprint, .inr (length_of_isFingerprint fingerprint)⟩

theorem lastNamed?_of_mem_names (canonical : db.Canonical) (apart : db.Apart)
    (listed : key ∈ db.keys) (named : name ∈ key.names) :
    lastNamed? db.keys name = some key := by
  have digits : ∀ other ∈ db.keys, ∀ own ∈ other.fingerprints, IsDigits own := by
    intro other listed' own member
    exact isDigits_of_isFingerprint (canonical other listed' own member)
  apply lastNamed?_of_unique listed named
  intro other listed' named'
  obtain ⟨own, member, same⟩ := exists_longId_of_mem_names (digits key listed) named
  obtain ⟨foreign, member', same'⟩ := exists_longId_of_mem_names (digits other listed') named'
  exact apart.eq_of_longId_eq listed' listed member' member (same'.symm.trans same)

theorem lookup_of_mem_names (canonical : db.Canonical) (apart : db.Apart)
    (listed : key ∈ db.keys) (named : normal text ∈ key.names) :
    db.lookup text = some (key.entry (normal text)) := by
  obtain ⟨digits, length⟩ := length_of_mem_names canonical listed named
  have inhabited : normal text ≠ "" := by
    intro empty
    rw [empty] at length
    exact absurd length (by decide)
  rw [lookup_of_isDigits db digits, if_neg inhabited,
    lastNamed?_of_mem_names canonical apart listed named, Option.map_some, Option.some_or]

theorem policy_of_mem_names (canonical : db.Canonical) (apart : db.Apart)
    (listed : key ∈ db.keys) (named : normal text ∈ key.names) : db.policy text = key.policy := by
  rw [policy_eq_scan, lastNamed?_of_mem_names canonical apart listed named, Option.some_or,
    Option.map_some, Option.getD_some]

/-- No name has the length of a short ID, which is searched for at the ends of the keys. -/
theorem lookup_of_eight (canonical : db.Canonical) (digits : IsDigits (normal text))
    (eight : (normal text).toList.length = 8) :
    db.lookup text =
      (db.keys.find? fun key => endsWith key (normal text)).map
        fun key => key.entry (normal key.fingerprint) := by
  have inhabited : normal text ≠ "" := by
    intro empty
    rw [empty] at eight
    exact absurd eight (by decide)
  have unnamed : lastNamed? db.keys (normal text) = none := by
    apply (lastNamed?_eq_none_iff _ _).mpr
    intro key listed named
    obtain ⟨_, long⟩ := length_of_mem_names canonical listed named
    omega
  rw [lookup_of_isDigits db digits, if_neg inhabited, longId_of_short digits (by omega), unnamed,
    if_pos eight, Option.map_none, Option.none_or, Option.none_or]

theorem suffix_iff_shortId (fingerprint : isFingerprint name = true)
    (eight : text.toList.length = 8) :
    text.toList <:+ name.toList ↔ shortId name = text := by
  have length := length_of_isFingerprint fingerprint
  rw [List.suffix_iff_eq_drop, eight, eq_comm, ← String.toList_inj, shortId, String.toList_ofList]

theorem isDigits_shortId (digits : IsDigits name) : IsDigits (shortId name) := by
  intro c member
  rw [shortId, String.toList_ofList] at member
  exact digits c (List.mem_of_mem_drop member)

theorem lookup_of_shortId (canonical : db.Canonical) (apart : db.Apart) (listed : key ∈ db.keys)
    (short : normal text = shortId (normal key.fingerprint)) :
    db.lookup text = some (key.known none) := by
  have fingerprint : ∀ other ∈ db.keys, isFingerprint (normal other.fingerprint) = true :=
    fun other listed' => canonical other listed' _ List.mem_cons_self
  have length := length_of_isFingerprint (fingerprint key listed)
  have digits : IsDigits (normal text) :=
    short ▸ isDigits_shortId (isDigits_of_isFingerprint (fingerprint key listed))
  have eight : (normal text).toList.length = 8 := by
    rw [short, shortId, String.toList_ofList, List.length_drop]
    omega
  have ends : ∀ other ∈ db.keys, endsWith other (normal text) = true ↔ other = key := by
    intro other listed'
    rw [endsWith_iff, suffix_iff_shortId (fingerprint other listed') eight, short]
    constructor
    · exact fun same => List.inj_on_of_nodup_map apart.shortIds listed' listed same
    · exact fun same => same ▸ rfl
  have first : (db.keys.find? fun key => endsWith key (normal text)) = some key := by
    cases found : db.keys.find? fun key => endsWith key (normal text) with
    | none => exact absurd ((ends key listed).mpr rfl) (List.find?_eq_none.mp found key listed)
    | some other =>
      have here := List.find?_some found
      rw [(ends other (List.mem_of_find?_eq_some found)).mp here]
  rw [lookup_of_eight canonical digits eight, first, Option.map_some,
    Listed.entry_of_primary rfl]

theorem lookup_of_foreign_longId (canonical : db.Canonical) (digits : IsDigits (normal text))
    (long : 8 < (normal text).toList.length)
    (foreign : ∀ key ∈ db.keys, ∀ own ∈ key.fingerprints, longId own ≠ longId (normal text)) :
    db.lookup text = none := by
  have unnamed : ∀ asked, longId asked = longId (normal text) → lastNamed? db.keys asked = none := by
    intro asked same
    apply (lastNamed?_eq_none_iff _ _).mpr
    intro key listed named
    have own_digits : ∀ own ∈ key.fingerprints, IsDigits own :=
      fun own member => isDigits_of_isFingerprint (canonical key listed own member)
    obtain ⟨own, member, shared⟩ := exists_longId_of_mem_names own_digits named
    exact foreign key listed own member (shared.symm.trans same)
  rw [lookup_of_isDigits db digits, unnamed _ rfl, unnamed _ (longId_longId digits),
    if_neg (show ¬(normal text).toList.length = 8 by omega)]
  simp

theorem lookup_of_foreign_shortId (canonical : db.Canonical) (digits : IsDigits (normal text))
    (eight : (normal text).toList.length = 8)
    (foreign : ∀ key ∈ db.keys, shortId (normal key.fingerprint) ≠ normal text) :
    db.lookup text = none := by
  have passed : (db.keys.find? fun key => endsWith key (normal text)) = none := by
    apply List.find?_eq_none.mpr
    intro key listed
    have fingerprint := canonical key listed _ List.mem_cons_self
    rw [endsWith_iff, suffix_iff_shortId fingerprint eight]
    exact foreign key listed
  rw [lookup_of_eight canonical digits eight, passed, Option.map_none]

/-- Every spelling of every name of a key finds that key, and by its fingerprints and long IDs its
policy too.  A subkey is told apart by its own long ID.  A name of another length than these has no
part in this, and one that ends like no key finds nothing. -/
theorem found_by_every_name (db : Snapshot) (canonical : db.Canonical) (apart : db.Apart) :
    (∀ key ∈ db.keys, ∀ text,
      (Spells (normal key.fingerprint) text ∨ Spells (longId (normal key.fingerprint)) text ∨
          Spells (shortId (normal key.fingerprint)) text →
        db.lookup text = some (key.known none)) ∧
      (∀ subkey ∈ key.subkeys,
        Spells (normal subkey) text ∨ Spells (longId (normal subkey)) text →
          db.lookup text = some (key.known (some (longId (normal subkey))))) ∧
      ∀ own ∈ key.fingerprints, Spells own text ∨ Spells (longId own) text →
        db.policy text = key.policy) ∧
    ∀ digits text, IsDigits digits → Spells digits text →
      (digits.toList.length = 40 ∨ digits.toList.length = 16 →
        (∀ key ∈ db.keys, ∀ own ∈ key.fingerprints, longId own ≠ longId digits) →
          db.lookup text = none) ∧
      (digits.toList.length = 8 →
        (∀ key ∈ db.keys, shortId (normal key.fingerprint) ≠ digits) → db.lookup text = none) := by
  have named : ∀ key ∈ db.keys, ∀ own ∈ key.fingerprints, ∀ text,
      Spells own text ∨ Spells (longId own) text →
        normal text ∈ key.names ∧ longId (normal text) = longId own := by
    intro key listed own member text spelled
    have digits := isDigits_of_isFingerprint (canonical key listed own member)
    obtain by_name | by_id := spelled
    · rw [normal_of_spells digits by_name]
      exact ⟨(key.mem_names_iff _).mpr ⟨own, member, .inr rfl⟩, rfl⟩
    · rw [normal_of_spells (isDigits_longId digits) by_id]
      exact ⟨Listed.longId_mem_names member, longId_longId digits⟩
  constructor
  · intro key listed text
    have primary : normal key.fingerprint ∈ key.fingerprints := List.mem_cons_self
    refine ⟨?_, ?_, ?_⟩
    · rintro (by_name | by_id | by_end)
      · obtain ⟨has, same⟩ := named key listed _ primary text (.inl by_name)
        rw [lookup_of_mem_names canonical apart listed has, Listed.entry_of_primary same]
      · obtain ⟨has, same⟩ := named key listed _ primary text (.inr by_id)
        rw [lookup_of_mem_names canonical apart listed has, Listed.entry_of_primary same]
      · have fingerprint := canonical key listed _ primary
        have digits := isDigits_shortId (isDigits_of_isFingerprint fingerprint)
        exact lookup_of_shortId canonical apart listed (normal_of_spells digits by_end)
    · intro subkey member spelled
      have own : normal subkey ∈ key.fingerprints :=
        List.mem_cons_of_mem _ (List.mem_map_of_mem member)
      obtain ⟨has, same⟩ := named key listed _ own text spelled
      have other := apart.longId_subkey_ne listed member
      rw [← same] at other
      rw [lookup_of_mem_names canonical apart listed has, Listed.entry_of_subkey other, same]
    · intro own member spelled
      exact policy_of_mem_names canonical apart listed (named key listed own member text spelled).1
  · intro digits text canonical_digits spelled
    have same := normal_of_spells canonical_digits spelled
    rw [← same] at canonical_digits ⊢
    constructor
    · intro long foreign
      exact lookup_of_foreign_longId canonical canonical_digits (by omega) foreign
    · exact lookup_of_foreign_shortId canonical canonical_digits

/-- Two keys whose subkeys and primary keys share their first digits, asked for in mixed spellings. -/
theorem found_by_mixed_spellings :
    let alice : Listed :=
      { Listed.bare "0x0123 4567 89ab cdef 0123  4567 89ab cdef 0123 4567" .full .good with
        subkeys := ["0123456789abcdef0123456789abcdef76543210"] }
    let bob := Listed.bare "0123456789ABCDEF0123456789ABCDEF00000000" .never .bad
    let db := ofKeys [bob, alice]
    db.Canonical ∧ db.Apart ∧
      Spells (shortId (normal alice.fingerprint)) " 0X0123\u00a04567\n" ∧
      db.lookup " 0X0123\u00a04567\n" = some (alice.known none) ∧
      Spells (longId (normal "0123456789abcdef0123456789abcdef76543210")) "89abCDEF 76543210" ∧
      db.lookup "89abCDEF 76543210" = some (alice.known (some "89ABCDEF76543210")) ∧
      db.policy "89abCDEF 76543210" = .good ∧
      db.lookup "0x76543210" = none := by
  intro alice bob db
  have canonical : db.Canonical := by decide +kernel
  have apart : db.Apart := ⟨by decide +kernel, by decide +kernel⟩
  obtain ⟨finds, misses⟩ := found_by_every_name db canonical apart
  have listed : alice ∈ db.keys := by simp [db, ofKeys]
  have short : Spells (shortId (normal alice.fingerprint)) " 0X0123\u00a04567\n" :=
    (spells_iff (by decide +kernel)).mpr (by decide +kernel)
  have long : Spells (longId (normal "0123456789abcdef0123456789abcdef76543210"))
      "89abCDEF 76543210" := (spells_iff (by decide +kernel)).mpr (by decide +kernel)
  have absent : Spells "76543210" "0x76543210" := (spells_iff (by decide +kernel)).mpr (by decide +kernel)
  have by_short := (finds alice listed _).1 (.inr (.inr short))
  have by_subkey := (finds alice listed _).2.1 _ (by simp [alice]) (.inr long)
  have policy := (finds alice listed _).2.2 _ (List.mem_cons_of_mem _ (by simp [alice])) (.inr long)
  have missed := (misses _ _ (by decide +kernel) absent).2 rfl (by decide +kernel)
  have named : longId (normal "0123456789abcdef0123456789abcdef76543210") = "89ABCDEF76543210" := by
    decide +kernel
  rw [named] at by_subkey
  exact ⟨canonical, apart, short, by_short, long, by_subkey, policy, missed⟩

end Snapshot

end Vouch.Key
