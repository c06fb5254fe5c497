import Mathlib.Tactic
import Vouch.Proofs.Decimal
import Vouch.Proofs.Key.Spelling
import Vouch.Proofs.Keyserver.Listing
import Vouch.Proofs.Text.Line
import Vouch.Proofs.Text.Percent

/-!
A written listing reads back as the keys that were written.

A server writes a line for each key and one for each of its user IDs.  It is free in the line breaks,
in the blanks around a line, in what it escapes in a user ID beyond what must be escaped, and in the
lines of other kinds between them.
-/

namespace Vouch.Keyserver.Listing

structure Second where
  number : Nat
  positive : 0 < number
  le_last : (number : Int) ≤ Time.lastSecond

theorem Second.in_range (s : Second) :
    Time.firstSecond ≤ (s.number : Int) ∧ (s.number : Int) ≤ Time.lastSecond :=
  ⟨le_trans (by decide) (Int.natCast_nonneg s.number), s.le_last⟩

def Second.instant (s : Second) : Time.Instant :=
  ⟨s.number, 0, s.in_range, Nat.zero_lt_succ _⟩

/-- A key that a server has to list. -/
structure Posting where
  /-- The key ID or the fingerprint, in either letter case. -/
  id : String
  id_ne : id ≠ ""
  id_hex : ∀ c ∈ id.toList, Text.isHexDigit c = true
  algorithm : Nat
  bits : UInt32
  created : Option Second
  expires : Option Second
  revoked : Bool
  disabled : Bool
  expired : Bool
  uids : List String

def algorithmName (number : Nat) : String :=
  ((Engine.keyAlgorithms.find? fun row => row.1.toNat == number).map Prod.snd).getD "Unknown"

def Posting.candidate (posting : Posting) : Candidate where
  keyId := Text.upper posting.id
  fingerprint := if posting.id.length = 40 then some (Text.upper posting.id) else none
  algorithm := algorithmName posting.algorithm
  bits := posting.bits
  created := posting.created.map Second.instant
  expires := posting.expires.map Second.instant
  revoked := posting.revoked
  disabled := posting.disabled
  expired := posting.expired
  uids := posting.uids

inductive Entry where
  | key (posting : Posting)
  | uid (uid : String)

def Posting.entries (posting : Posting) : List Entry :=
  .key posting :: posting.uids.map .uid

def Entry.line : Entry → Line
  | .key posting => .key { posting.candidate with uids := [] }
  | .uid name => .uid name

structure Posting.Flagged (posting : Posting) (flags : List Char) : Prop where
  letters : ∀ c ∈ flags, c = 'r' ∨ c = 'd' ∨ c = 'e'
  revoked : flags.contains 'r' = posting.revoked
  disabled : flags.contains 'd' = posting.disabled
  expired : flags.contains 'e' = posting.expired

def timeField (time : Option Second) : List Char :=
  (time.map fun s => Decimal.digits s.number).getD []

def MayStand (c : Char) : Prop :=
  c ≠ '%' ∧ c ≠ ':' ∧ c ≠ '\n'

inductive Entry.Fields : Entry → List (List Char) → Prop
  | key {posting : Posting} {flags : List Char} : posting.Flagged flags →
      Fields (.key posting) [['p', 'u', 'b'], posting.id.toList, Decimal.digits posting.algorithm,
        Decimal.digits posting.bits.toNat, timeField posting.created, timeField posting.expires,
        flags]
  | uid {uid : String} {text : List Char} : Text.Escaped MayStand uid.toList text →
      Fields (.uid uid) [['u', 'i', 'd'], text, [], [], []]

/-- The line is written for the entry: its fields with colons between them and perhaps blanks around
the whole. -/
def Entry.Writes (entry : Entry) (line : List Char) : Prop :=
  ∃ front fields back, line = front ++ [':'].intercalate fields ++ back ∧
    (∀ c ∈ front, Text.isBlank c = true) ∧ entry.Fields fields ∧
    ∀ c ∈ back, Text.isBlank c = true

def isRecord (line : List Char) : Bool :=
  isKeyLine line || (fieldsOf line).head? == some ['u', 'i', 'd']

/-- The lines are written for the entries, with lines of other kinds anywhere between them. -/
inductive Listed : List Entry → List (List Char) → Prop
  | nil : Listed [] []
  | record {entry : Entry} {entries : List Entry} {line : List Char} {more : List (List Char)} :
      entry.Writes line → Listed entries more → Listed (entry :: entries) (line :: more)
  | other {entries : List Entry} {line : List Char} {more : List (List Char)} :
      isRecord line = false → Listed entries more → Listed entries (line :: more)

def Writes (postings : List Posting) (body : String) : Prop :=
  ∃ ls, Listed (postings.flatMap Posting.entries) ls ∧ Text.Ended ls body.toList

variable {posting : Posting} {entry : Entry} {fields : List (List Char)} {line : List Char}

theorem isHexDigit_of_mem_digits {n : Nat} : ∀ c ∈ Decimal.digits n, Text.isHexDigit c = true := by
  intro c member
  rw [Text.isHexDigit, Decimal.isDigit_of_mem_digits c member, Bool.true_or, Bool.true_or]

theorem time?_timeField (time : Option Second) :
    time? (timeField time) = time.map Second.instant := by
  cases time with
  | none => rfl
  | some s =>
    have solid : ∀ c ∈ Decimal.digits s.number, Text.isBlank c = false := by
      intro c member
      exact Text.isBlank_of_isDigit (Decimal.isDigit_of_mem_digits c member)
    have fits : (s.number : Int) ≤ Decimal.maxI64 := le_trans s.le_last (by decide)
    have positive : (0 : Int) < s.number := Int.natCast_pos.mpr s.positive
    change time? (Decimal.digits s.number) = some s.instant
    rw [time?, Text.trimChars_of_solid solid, Decimal.signed?_digits fits, Option.bind_eq_bind,
      Option.bind_some, if_pos positive, Time.Instant.ofSeconds?, dif_pos s.in_range]
    rfl

theorem lookup_ofNat {β : Type} {n : Nat} (fits : n ≤ Decimal.maxU32) (rows : List (UInt32 × β)) :
    rows.lookup (UInt32.ofNat n) = (rows.find? fun row => row.1.toNat == n).map Prod.snd := by
  induction rows with
  | nil => rfl
  | cons row rest ih =>
    obtain ⟨number, name⟩ := row
    have same : (UInt32.ofNat n == number) = (number.toNat == n) := by
      rw [Bool.eq_iff_iff, beq_iff_eq, beq_iff_eq, ← UInt32.toNat_inj,
        UInt32.toNat_ofNat_of_lt' (Nat.lt_succ_of_le fits), eq_comm]
    rw [List.lookup_cons, List.find?_cons, same, ih]
    cases number.toNat == n <;> rfl

theorem algorithm_digits (n : Nat) : algorithm (Decimal.digits n) = algorithmName n := by
  rw [algorithm, Decimal.natural?_digits]
  by_cases fits : n ≤ Decimal.maxU32
  · rw [if_pos fits, algorithmName, ← lookup_ofNat fits]
    rfl
  · -- A number beyond 32 bits is not read, and no algorithm has one.
    have unknown : (Engine.keyAlgorithms.find? fun row => row.1.toNat == n) = none := by
      apply List.find?_eq_none.mpr
      intro row _ same
      have bound := row.1.toNat_lt
      rw [beq_iff_eq.mp same] at bound
      exact fits (Nat.le_of_lt_succ bound)
    rw [if_neg fits, algorithmName, unknown]
    rfl

theorem bits_digits (n : UInt32) : bits (Decimal.digits n.toNat) = n := by
  have fits : n.toNat ≤ Decimal.maxU32 := Nat.le_of_lt_succ n.toNat_lt
  rw [bits, Decimal.natural?_digits, if_pos fits, Option.getD_some, UInt32.ofNat_toNat]

theorem isFingerprint_upper (posting : Posting) :
    Key.isFingerprint (Text.upper posting.id) = decide (posting.id.length = 40) := by
  have digits : (Text.upper posting.id).toList.all Key.isCanonicalDigit = true :=
    List.all_eq_true.mpr (Key.isDigits_upper posting.id_hex)
  rw [Key.isFingerprint, digits, Bool.and_true, Text.upper, String.toList_ofList, List.length_map,
    String.length_toList, beq_eq_decide]

theorem key_of_flagged {flags : List Char} (flagged : posting.Flagged flags) :
    key posting.id.toList [Decimal.digits posting.algorithm, Decimal.digits posting.bits.toNat,
      timeField posting.created, timeField posting.expires, flags] =
      { posting.candidate with uids := [] } := by
  have name : String.ofList (Key.normalChars posting.id.toList) = Text.upper posting.id :=
    Key.normal_of_hexDigits posting.id_hex
  simp only [key, name, isFingerprint_upper, decide_eq_true_eq, List.getD_cons_zero,
    List.getD_cons_succ, algorithm_digits, bits_digits, time?_timeField, flagged.revoked,
    flagged.disabled, flagged.expired, Posting.candidate]

theorem Entry.Fields.lineOf_eq (written : entry.Fields fields) :
    Listing.lineOf fields = entry.line := by
  cases written with
  | @key posting flags flagged =>
    have inhabited : posting.id.toList ≠ [] := by
      simpa using posting.id_ne
    obtain ⟨c, cs, parts⟩ := List.exists_cons_of_ne_nil inhabited
    rw [Entry.line, ← key_of_flagged flagged, parts]
    rfl
  | @uid name text escaped =>
    have sign : ¬MayStand '%' := fun stands => stands.1 rfl
    rw [Entry.line, ← Text.unescaped_of_escaped escaped sign]
    rfl

theorem colon_not_mem {cs : List Char} (digits : ∀ c ∈ cs, Text.isHexDigit c = true) :
    ':' ∉ cs := by
  intro member
  exact absurd (digits ':' member) (by decide)

theorem colon_not_mem_timeField (time : Option Second) : ':' ∉ timeField time := by
  cases time with
  | none => exact List.not_mem_nil
  | some s => exact colon_not_mem isHexDigit_of_mem_digits

theorem Entry.Fields.colon_not_mem (written : entry.Fields fields) :
    ∀ field ∈ fields, ':' ∉ field := by
  cases written with
  | @key posting flags flagged =>
    have letters : ':' ∉ flags := by
      intro member
      simpa using flagged.letters ':' member
    simp only [List.forall_mem_cons]
    exact ⟨by decide, Listing.colon_not_mem posting.id_hex,
      Listing.colon_not_mem isHexDigit_of_mem_digits,
      Listing.colon_not_mem isHexDigit_of_mem_digits, colon_not_mem_timeField _,
      colon_not_mem_timeField _, letters, by simp⟩
  | @uid name text escaped =>
    have inside : ':' ∉ text := by
      intro member
      obtain stands | sign | digit := Text.mem_of_escaped escaped ':' member
      · exact stands.2.1 rfl
      · exact absurd sign (by decide)
      · exact absurd digit (by decide)
    simpa using inside

theorem Entry.Fields.trimmed (written : entry.Fields fields) :
    Text.trimFront ([':'].intercalate fields) = [':'].intercalate fields ∧
      Text.trimBack ([':'].intercalate fields) = [':'].intercalate fields := by
  cases written with
  | @key posting flags flagged =>
    have solid : ∀ c ∈ flags, Text.isBlank c = false := by
      intro c member
      obtain rfl | rfl | rfl := flagged.letters c member <;> decide
    exact ⟨Text.trimFront_cons (by decide),
      Text.trimBack_intercalate (by decide) (Text.trimBack_of_solid solid) _ rfl⟩
  | uid => exact ⟨Text.trimFront_cons (by decide), Text.trimBack_intercalate (by decide) rfl _ rfl⟩

theorem Entry.Writes.lineOf_eq (written : entry.Writes line) :
    Listing.lineOf (fieldsOf line) = entry.line := by
  obtain ⟨front, fields, back, rfl, blank_front, inside, blank_back⟩ := written
  have inhabited : fields ≠ [] := by
    cases inside <;> exact List.cons_ne_nil _ _
  -- The joined fields have no blank at an end, so trimming takes the padding and nothing else.
  rw [fieldsOf, Text.trimChars_padded blank_front blank_back inside.trimmed.1 inside.trimmed.2,
    Text.pieces_intercalate inhabited inside.colon_not_mem, inside.lineOf_eq]

theorem lineOf_of_not_isRecord (other : isRecord line = false) :
    lineOf (fieldsOf line) = .other := by
  unfold lineOf
  split
  case h_1 c cs more fields => simp [isRecord, isKeyLine, fields] at other
  case h_2 uid more fields => simp [isRecord, isKeyLine, fields] at other
  case h_3 => rfl

theorem collect_of_listed {entries : List Entry} {ls : List (List Char)}
    (listed : Listed entries ls) :
    collect (ls.map fun line => lineOf (fieldsOf line)) = collect (entries.map Entry.line) := by
  induction listed with
  | nil => rfl
  | record written _ ih =>
    rw [List.map_cons, List.map_cons, written.lineOf_eq, collect, collect, ih]
  | other other _ ih => rw [List.map_cons, lineOf_of_not_isRecord other, collect, ih]

theorem collect_uids (uids : List String) (more : List Line) :
    collect (uids.map .uid ++ more) = (uids ++ (collect more).1, (collect more).2) := by
  induction uids with
  | nil => rfl
  | cons uid rest ih =>
    rw [List.map_cons, List.cons_append, collect, ih]
    rfl

theorem collect_entries (postings : List Posting) :
    collect ((postings.flatMap Posting.entries).map Entry.line) =
      ([], postings.map Posting.candidate) := by
  induction postings with
  | nil => rfl
  | cons posting rest ih =>
    have uids : (posting.uids.map Entry.uid).map Entry.line = posting.uids.map Line.uid := by
      rw [List.map_map]
      rfl
    rw [List.flatMap_cons, List.map_append, Posting.entries, List.map_cons, uids, List.cons_append,
      collect, collect_uids, ih, List.append_nil]
    rfl

/-- A listing of keys is read as these keys. -/
theorem read_of_writes {postings : List Posting} {body : String} (written : Writes postings body) :
    Listing.read body = postings.map Posting.candidate := by
  obtain ⟨ls, listed, ended⟩ := written
  have trimmed : lines body = ls.map fun line => lineOf (fieldsOf line) := by
    have same := congrArg (List.map fun line => lineOf (Text.pieces ':' line))
      (Text.trimChars_lines ended)
    rwa [List.map_map, List.map_map] at same
  rw [Listing.read, trimmed, collect_of_listed listed, collect_entries]

def lastingPosting : Posting where
  id := "0123456789abcdef0123456789abcdef01234567"
  id_ne := by decide
  id_hex := List.all_eq_true.mp (by decide)
  algorithm := 1
  bits := 4096
  created := some ⟨1500000000, by decide, by decide⟩
  expires := none
  revoked := false
  disabled := false
  expired := false
  uids := ["Jürgen: 100%", " "]

def spentPosting : Posting where
  id := "89ABCDEF"
  id_ne := by decide
  id_hex := List.all_eq_true.mp (by decide)
  algorithm := 22
  bits := 255
  created := some ⟨1600000000, by decide, by decide⟩
  expires := some ⟨1700000000, by decide, by decide⟩
  revoked := true
  disabled := false
  expired := true
  uids := []

/-- A listing with line breaks of both kinds, blanks around a line and lines of other kinds. -/
def mixedListing : String :=
  "info:1:2\r\n  pub:0123456789abcdef0123456789abcdef01234567:1:4096:1500000000::\t\n" ++
    "uid:J%C3%BCrgen%3A%20100%25:::\r\n\nuid:%20:::\n" ++
    "pub:89ABCDEF:22:255:1600000000:1700000000:er\r\n"

theorem read_mixedListing :
    Writes [lastingPosting, spentPosting] mixedListing ∧
      Listing.read mixedListing = [lastingPosting.candidate, spentPosting.candidate] := by
  have no_flags : lastingPosting.Flagged [] := ⟨by simp, rfl, rfl, rfl⟩
  have flags : spentPosting.Flagged ['e', 'r'] := ⟨by simp, rfl, rfl, rfl⟩
  have may : ∀ c : Char, c.isAlphanum = true → MayStand c := by
    intro c alphanumeric
    refine ⟨?_, ?_, ?_⟩ <;> rintro rfl <;> contradiction
  have lasting : (Entry.key lastingPosting).Writes
      "  pub:0123456789abcdef0123456789abcdef01234567:1:4096:1500000000::\t".toList :=
    ⟨"  ".toList, _, "\t".toList, rfl, List.all_eq_true.mp (by decide), .key no_flags,
      List.all_eq_true.mp (by decide)⟩
  have name : (Entry.uid "Jürgen: 100%").Writes "uid:J%C3%BCrgen%3A%20100%25:::".toList :=
    ⟨[], _, [], by decide +kernel, by simp, .uid (Text.escaped_percentEscaped may _), by simp⟩
  have blank : (Entry.uid " ").Writes "uid:%20:::".toList :=
    ⟨[], _, [], by decide +kernel, by simp, .uid (Text.escaped_percentEscaped may _), by simp⟩
  have spent : (Entry.key spentPosting).Writes
      "pub:89ABCDEF:22:255:1600000000:1700000000:er".toList :=
    ⟨[], _, [], rfl, by simp, .key flags, by simp⟩
  have text : mixedListing.toList = "info:1:2".toList ++ '\r' :: '\n' ::
      ("  pub:0123456789abcdef0123456789abcdef01234567:1:4096:1500000000::\t".toList ++ '\n' ::
      ("uid:J%C3%BCrgen%3A%20100%25:::".toList ++ '\r' :: '\n' :: ([] ++ '\n' ::
      ("uid:%20:::".toList ++ '\n' ::
      ("pub:89ABCDEF:22:255:1600000000:1700000000:er".toList ++ '\r' :: '\n' :: []))))) := by
    decide +kernel
  have written : Writes [lastingPosting, spentPosting] mixedListing := by
    rw [Writes, text]
    exact ⟨_, .other (by decide +kernel) (.record lasting (.record name
        (.other (by decide +kernel) (.record blank (.record spent .nil))))),
      .returnFeed (by decide) (.feed (by decide) (.returnFeed (by decide)
        (.feed (by decide) (.feed (by decide) (.returnFeed (by decide) .nil)))))⟩
  exact ⟨written, read_of_writes written⟩

end Vouch.Keyserver.Listing
