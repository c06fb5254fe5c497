import Mathlib.Data.List.TakeWhile
import Mathlib.Tactic
import Vouch.Keyserver.Candidate

/-!
Whose user IDs the user IDs of a listing are.

A listing is read line by line.  A user ID belongs to the key of the last line that names one, so a
line of a key without an ID does not end the user IDs of the key before it: those that were meant
for the nameless key are credited to that one.
-/

namespace Vouch.Keyserver.Listing

def fieldsOf (line : List Char) : List (List Char) :=
  Text.pieces ':' (Text.trimChars line)

def isKeyLine (line : List Char) : Bool :=
  (fieldsOf line).head? == some ['p', 'u', 'b']

def keyOf? (line : List Char) : Option Candidate :=
  match fieldsOf line with
  | ['p', 'u', 'b'] :: (c :: cs) :: more => some (key (c :: cs) more)
  | _ => none

def uidOf? (line : List Char) : Option String :=
  match fieldsOf line with
  | ['u', 'i', 'd'] :: uid :: _ => some (Text.unescaped (String.ofList uid))
  | _ => none

def dueUids (after : List (List Char)) : List String :=
  (after.takeWhile fun line => !isKeyLine line).filterMap uidOf?

/-- The user IDs from the next line of a key on, as long as no line names a key. -/
def strayUids (after : List (List Char)) : List String :=
  ((after.dropWhile fun line => !isKeyLine line).takeWhile fun line =>
    (keyOf? line).isNone).filterMap uidOf?

/-- The keys that lines name, each with the user IDs that are seen in the lines after its own. -/
def keysWith (uids : List (List Char) → List String) : List (List Char) → List Candidate
  | [] => []
  | line :: after =>
    match keyOf? line with
    | some key => { key with uids := uids after } :: keysWith uids after
    | none => keysWith uids after

variable {line : List Char}

theorem keyOf?_of_not_isKeyLine (other : isKeyLine line = false) : keyOf? line = none := by
  unfold keyOf?
  split
  case h_1 fields =>
    rw [isKeyLine, fields, List.head?_cons, beq_self_eq_true] at other
    contradiction
  case h_2 => rfl

theorem lineOf_fieldsOf (line : List Char) :
    lineOf (fieldsOf line) = match keyOf? line, uidOf? line with
      | some key, _ => .key key
      | none, some uid => .uid uid
      | none, none => .other := by
  unfold keyOf? uidOf? lineOf
  split <;> simp_all

theorem collect_lines (ls : List (List Char)) :
    collect (ls.map fun line => lineOf (fieldsOf line)) =
      ((ls.takeWhile fun line => (keyOf? line).isNone).filterMap uidOf?,
        keysWith (fun after => (after.takeWhile fun line => (keyOf? line).isNone).filterMap uidOf?)
          ls) := by
  induction ls with
  | nil => rfl
  | cons line after ih =>
    -- A line that names a key takes the user IDs collected behind it; any other passes them on.
    rw [List.map_cons, collect, ih, lineOf_fieldsOf, keysWith, List.takeWhile_cons]
    cases named : keyOf? line with
    | some key => rfl
    | none =>
      cases given : uidOf? line with
      | some uid => simp [given]
      | none => simp [given]

/-- A listing has the keys that its lines name, with all user IDs up to the next key. -/
theorem read_eq_keysWith (body : String) :
    Listing.read body =
      keysWith (fun after => (after.takeWhile fun line => (keyOf? line).isNone).filterMap uidOf?)
        (Text.lines body.toList) := by
  change (collect ((Text.lines body.toList).map fun line => lineOf (fieldsOf line))).2 = _
  rw [collect_lines]

theorem exists_of_mem_keysWith {uids : List (List Char) → List String} {ls : List (List Char)}
    {key : Candidate} (listed : key ∈ keysWith uids ls) :
    ∃ line ∈ ls, ∃ named uids, keyOf? line = some named ∧ key = { named with uids } := by
  induction ls with
  | nil => cases listed
  | cons line after ih =>
    rw [keysWith] at listed
    cases named : keyOf? line with
    | none =>
      rw [named] at listed
      obtain ⟨other, later, found⟩ := ih listed
      exact ⟨other, List.mem_cons_of_mem _ later, found⟩
    | some first =>
      rw [named] at listed
      obtain rfl | later := List.mem_cons.mp listed
      · exact ⟨line, List.mem_cons_self, first, _, named, rfl⟩
      · obtain ⟨other, later, found⟩ := ih later
        exact ⟨other, List.mem_cons_of_mem _ later, found⟩

/-- Up to the next key that is named stand the user IDs that are due and then the strays. -/
theorem uids_before_key (after : List (List Char)) :
    (after.takeWhile fun line => (keyOf? line).isNone).filterMap uidOf? =
      dueUids after ++ strayUids after := by
  have unnamed : ∀ line ∈ after.takeWhile (fun line => !isKeyLine line),
      (keyOf? line).isNone = true := by
    intro line member
    have other := List.mem_takeWhile_imp member
    rw [keyOf?_of_not_isKeyLine (by simpa using other)]
    rfl
  rw [dueUids, strayUids, ← List.filterMap_append, ← List.takeWhile_append_of_pos unnamed,
    List.takeWhile_append_dropWhile]

theorem keysWith_eq_iff (f g : List (List Char) → List String) (ls : List (List Char)) :
    keysWith f ls = keysWith g ls ↔
      ∀ line after, line :: after <:+ ls → (keyOf? line).isSome = true → f after = g after := by
  induction ls with
  | nil => simp [keysWith]
  | cons first rest ih =>
    simp only [List.suffix_cons_iff, List.cons.injEq]
    cases named : keyOf? first with
    | none =>
      rw [keysWith, keysWith, named, ih]
      constructor
      · rintro same line after (⟨rfl, rfl⟩ | later) key
        · rw [named] at key
          contradiction
        · exact same line after later key
      · exact fun same line after later => same line after (.inr later)
    | some key =>
      rw [keysWith, keysWith, named, List.cons.injEq, ih]
      constructor
      · rintro ⟨here, same⟩ line after (⟨rfl, rfl⟩ | later) key
        · exact congrArg Candidate.uids here
        · exact same line after later key
      · intro same
        constructor
        · rw [same first rest (.inl ⟨rfl, rfl⟩) (by rw [named]; rfl)]
        · exact fun line after later => same line after (.inr later)

/-- Every key is read with the user IDs that are due to it and with the strays behind them.  All
user IDs are credited to the right keys exactly if there are no strays behind any key. -/
theorem read_eq_due_iff (body : String) :
    Listing.read body =
        keysWith (fun after => dueUids after ++ strayUids after) (Text.lines body.toList) ∧
      (Listing.read body = keysWith dueUids (Text.lines body.toList) ↔
        ∀ line after, line :: after <:+ Text.lines body.toList → (keyOf? line).isSome = true →
          strayUids after = []) := by
  have listed : Listing.read body =
      keysWith (fun after => dueUids after ++ strayUids after) (Text.lines body.toList) := by
    change (collect ((Text.lines body.toList).map fun line => lineOf (fieldsOf line))).2 = _
    rw [collect_lines, funext uids_before_key]
  refine ⟨listed, ?_⟩
  rw [listed, keysWith_eq_iff]
  simp only [List.append_right_eq_self]

/-- The user ID of a nameless key is credited to the key before it, to which none is due. -/
theorem stray_uid_credited :
    (Listing.read "pub:AAAAAAAAAAAAAAAA:1:2048:::\npub::1:2048:::\nuid:Mallory:::\n").map
        Candidate.uids = [["Mallory"]] ∧
      (keysWith dueUids (Text.lines
        "pub:AAAAAAAAAAAAAAAA:1:2048:::\npub::1:2048:::\nuid:Mallory:::\n".toList)).map
        Candidate.uids = [[]] := by
  constructor
  · decide +kernel
  · decide +kernel

end Vouch.Keyserver.Listing
