import Vouch.Key.State

/-!
Snapshots of a key database and finding keys in them.

A key is found by any of its names: its fingerprint, the fingerprints of its subkeys, and the long
IDs of all of these.  Where keys share a name, the last one in the snapshot has it.
-/

namespace Vouch.Key

structure Listed where
  fingerprint : String
  subkeys : List String
  uid : Option String
  algorithm : String
  bits : UInt32
  revoked : Bool
  expired : Bool
  disabled : Bool
  ownerTrust : TrustLevel
  policy : TofuPolicy
  deriving DecidableEq, Repr

namespace Listed

def toValue (key : Listed) : Json.Value :=
  .object [("fingerprint", .text key.fingerprint), ("subkeys", .texts key.subkeys),
    ("uid", .orNull .text key.uid), ("algorithm", .text key.algorithm), ("bits", .u32 key.bits),
    ("revoked", .bool key.revoked), ("expired", .bool key.expired),
    ("disabled", .bool key.disabled), ("owner_trust", .text key.ownerTrust.name),
    ("tofu_policy", .text key.policy.name)]

def shape : Json.Shape :=
  .record "struct SnapshotKey"
    [⟨"fingerprint", .required, .text⟩, ⟨"subkeys", .instead (.list []), .list .text⟩,
      ⟨"uid", .optional, .text⟩, ⟨"algorithm", .instead (.text ""), .text⟩,
      ⟨"bits", .instead (.int 0), .u32⟩, ⟨"revoked", .instead (.bool false), .flag⟩,
      ⟨"expired", .instead (.bool false), .flag⟩, ⟨"disabled", .instead (.bool false), .flag⟩,
      ⟨"owner_trust", .instead (.text "unknown"), TrustLevel.shape⟩,
      ⟨"tofu_policy", .instead (.text "unknown"), TofuPolicy.shape⟩]

def ofValue? : Json.Value → Option Listed
  | .list [.text fingerprint, subkeys, uid, .text algorithm, bits, .bool revoked, .bool expired,
      .bool disabled, .text trust, .text policy] => do
    return ⟨fingerprint, ← subkeys.list? Json.Value.text?, ← uid.optional? Json.Value.text?,
      algorithm, ← bits.u32?, revoked, expired, disabled, ← TrustLevel.ofName? trust,
      ← TofuPolicy.ofName? policy⟩
  | _ => none

def fingerprints (key : Listed) : List String :=
  normal key.fingerprint :: key.subkeys.map normal

def names (key : Listed) : List String :=
  key.fingerprints.flatMap (fun name => [longId name, name])

def entry (key : Listed) (name : String) : Entry :=
  let fingerprint := normal key.fingerprint
  let primaryId := longId fingerprint
  { reference :=
      { primaryId
        subkeyId := if longId name = primaryId then none else some (longId name)
        fingerprint
        algorithm := key.algorithm
        bits := key.bits }
    uid := key.uid
    state :=
      { present := true
        revoked := key.revoked
        expired := key.expired
        disabled := key.disabled
        ownerTrust := key.ownerTrust } }

end Listed

/-- Names and the positions of the keys that have them, the newest pair first. -/
abbrev Index := List (String × Nat)

namespace Index

def add (index : Index) (key : Listed) (position : Nat) : Index :=
  key.names.foldl (fun index name => (name, position) :: index) index

def ofKeys (keys : List Listed) : Index :=
  keys.zipIdx.foldl (fun index (key, position) => index.add key position) []

end Index

structure Hit where
  position : Nat
  name : String
  deriving DecidableEq, Repr

structure Snapshot where
  keys : List Listed
  index : Index
  index_eq : index = Index.ofKeys keys
  deriving Repr

namespace Snapshot

def ofKeys (keys : List Listed) : Snapshot := ⟨keys, Index.ofKeys keys, rfl⟩

def empty : Snapshot := ofKeys []

instance : Inhabited Snapshot := ⟨empty⟩

def shape : Json.Shape :=
  .record "struct KeySnapshot" [⟨"keys", .instead (.list []), .list Listed.shape⟩]

def ofValue? : Json.Value → Option Snapshot
  | .list [keys] => do return ofKeys (← keys.list? Listed.ofValue?)
  | _ => none

def fingerprints (db : Snapshot) : List String :=
  db.keys.map (fun key => normal key.fingerprint)

def position? (db : Snapshot) (name : String) : Option Nat :=
  db.index.lookup name

def named? (db : Snapshot) (name : String) : Option Hit :=
  (db.position? (normal name)).map fun position => ⟨position, normal name⟩

def endsWith (key : Listed) (name : String) : Bool :=
  name.toList.isSuffixOf (normalChars key.fingerprint.toList)

def ending? (db : Snapshot) (id : String) : Option Hit :=
  (db.keys.zipIdx.find? fun (key, _) => endsWith key id).map
    fun (key, position) => ⟨position, normal key.fingerprint⟩

/-- The key with a key ID.  An ID of eight bytes that is no name of a key stands for the first key
whose fingerprint ends with it. -/
def withId? (db : Snapshot) (name : String) : Option Hit :=
  let id := normal name
  (db.named? id).or (if id.utf8ByteSize = 8 then db.ending? id else none)

/-- The key of a fingerprint or key ID; a name that no key has is tried once more by its long
ID. -/
def resolve? (db : Snapshot) (name : String) : Option Hit :=
  if normal name = "" then none
  else (db.named? (normal name)).or (db.withId? (longId (normal name)))

def entryOf? (db : Snapshot) (hit : Hit) : Option Entry :=
  (db.keys[hit.position]?).map fun key => key.entry hit.name

def byFingerprint? (db : Snapshot) (name : String) : Option Entry :=
  (db.named? name).bind db.entryOf?

def byKeyId? (db : Snapshot) (name : String) : Option Entry :=
  (db.withId? name).bind db.entryOf?

def lookup (db : Snapshot) (name : String) : Option Entry :=
  (db.resolve? name).bind db.entryOf?

def policy (db : Snapshot) (name : String) : TofuPolicy :=
  let position := (db.position? (normal name)).or (db.position? (longId (normal name)))
  match position.bind (db.keys[·]?) with
  | some key => key.policy
  | none => .unknown

/-- The names that a lookup of these names tries a second time. -/
def missed (db : Snapshot) (name : String) : Option String :=
  if normal name = "" then none
  else if (db.named? (normal name)).isSome then none
  else some (normal name)

end Snapshot

end Vouch.Key
