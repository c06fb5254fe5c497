import Mathlib.Tactic
import Vouch.Proofs.Key.Spelling
import Vouch.Proofs.Keyserver.Listing

/-!
The names by which the keys of a listing are fetched.

A line names a key if its field for the ID is not empty, and the key has the normal form of that field.
A key is fetched by this name, whether it is a fingerprint or not.  A field of blanks, or of a mark and
blanks, is not empty and yet comes down to nothing, so that the key of such a line has no name.
-/

namespace Vouch.Keyserver

structure Candidate.Named (key : Candidate) : Prop where
  fetched : key.fetchId = key.keyId
  fingerprint : ∀ fingerprint, key.fingerprint = some fingerprint ↔
    fingerprint = key.keyId ∧ key.keyId.toList.length = 40 ∧ Key.IsDigits key.keyId

namespace Listing

def idOf? (line : List Char) : Option String :=
  match fieldsOf line with
  | ['p', 'u', 'b'] :: (c :: cs) :: _ => some (String.ofList (c :: cs))
  | _ => none

theorem named_key (id : List Char) (more : List (List Char)) : (key id more).Named := by
  by_cases whole : Key.isFingerprint (key id more).keyId = true
  · have given : (key id more).fingerprint = some (key id more).keyId := if_pos whole
    constructor
    case fetched => rw [Candidate.fetchId, given, Option.getD_some]
    case fingerprint =>
      intro fingerprint
      rw [given, Option.some_inj, ← Key.isFingerprint_iff, and_iff_left whole, eq_comm]
  · have absent : (key id more).fingerprint = none := if_neg whole
    constructor
    case fetched => rw [Candidate.fetchId, absent, Option.getD_none]
    case fingerprint =>
      intro fingerprint
      rw [absent, ← Key.isFingerprint_iff]
      exact iff_of_false nofun fun named => whole named.2

theorem exists_of_keyOf? {line : List Char} {named : Candidate} (names : keyOf? line = some named) :
    ∃ id more, named = key id more := by
  unfold keyOf? at names
  split at names
  · exact ⟨_, _, (Option.some_inj.mp names).symm⟩
  · cases names

theorem map_keyId_keyOf? (line : List Char) :
    (keyOf? line).map Candidate.keyId = (idOf? line).map Key.normal := by
  unfold keyOf?
  split
  case h_1 fields =>
    rw [idOf?, fields]
    simp only [Option.map_some, Key.normal, String.toList_ofList]
    rfl
  case h_2 other =>
    unfold idOf?
    split
    case h_1 fields => exact (other _ _ _ fields).elim
    case h_2 => rfl

section
variable {uids : List (List Char) → List String}

theorem map_keyId_keysWith (ls : List (List Char)) :
    (keysWith uids ls).map Candidate.keyId = (ls.filterMap idOf?).map Key.normal := by
  induction ls with
  | nil => rfl
  | cons line after ih =>
    have name := map_keyId_keyOf? line
    rw [keysWith, List.filterMap_cons]
    cases named : keyOf? line with
    | none =>
      rw [named, Option.map_none, eq_comm, Option.map_eq_none_iff] at name
      rw [name, ih]
    | some key =>
      rw [named, Option.map_some, eq_comm, Option.map_eq_some_iff] at name
      obtain ⟨id, given, same⟩ := name
      rw [given, List.map_cons, List.map_cons, ih, same]

theorem named_of_mem_keysWith {ls : List (List Char)} : ∀ key ∈ keysWith uids ls, key.Named := by
  intro listed member
  obtain ⟨line, _, named, uids, names, rfl⟩ := exists_of_mem_keysWith member
  obtain ⟨id, more, rfl⟩ := exists_of_keyOf? names
  exact ⟨(named_key id more).fetched, (named_key id more).fingerprint⟩

end

/-- Every key is fetched by its ID, which is what its line gives in normal form.  All keys can be fetched
if and only if no line gives an ID that comes down to nothing. -/
theorem fetchable_iff (body : String) :
    let ids := (Text.lines body.toList).filterMap idOf?
    (Listing.read body).map Candidate.keyId = ids.map Key.normal ∧
    (∀ key ∈ Listing.read body, key.Named) ∧
    ((∀ key ∈ Listing.read body, key.fetchId ≠ "") ↔ ∀ id ∈ ids, ¬Key.Spells "" id) := by
  have named : ∀ key ∈ Listing.read body, key.Named := by
    rw [read_eq_keysWith]
    exact named_of_mem_keysWith
  have names : (Listing.read body).map Candidate.keyId =
      ((Text.lines body.toList).filterMap idOf?).map Key.normal := by
    rw [read_eq_keysWith, map_keyId_keysWith]
  refine ⟨names, named, ?_⟩
  calc
    (∀ key ∈ Listing.read body, key.fetchId ≠ "")
      ↔ ∀ name ∈ (Listing.read body).map Candidate.keyId, name ≠ "" := by
        rw [List.forall_mem_map]
        exact forall₂_congr fun key listed => by rw [(named key listed).fetched]
    _ ↔ ∀ id ∈ (Text.lines body.toList).filterMap idOf?, ¬Key.Spells "" id := by
        rw [names, List.forall_mem_map]
        exact forall₂_congr fun id _ => not_congr (Key.spells_iff (by decide)).symm

/-- The ID of this line is nothing but a mark, and its key is listed all the same. -/
theorem nameless_key_listed :
    (Text.lines "pub:0x:1:2048:::\n".toList).filterMap idOf? = ["0x"] ∧
      (Listing.read "pub:0x:1:2048:::\n").map Candidate.fetchId = [""] := by
  constructor
  · decide +kernel
  · decide +kernel

end Listing

end Vouch.Keyserver
