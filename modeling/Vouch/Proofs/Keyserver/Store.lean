import Mathlib.Tactic
import Vouch.Keyserver.Store
import Vouch.Proofs.Folder
import Vouch.Proofs.Key.Spelling

/-!
Which file a key is stored in.

The file of a key is named after the digits of its ID, so no ID leads out of the folder: the names of
the file's path are those of the folder and the name of the file.
-/

namespace Vouch.Keyserver.Store

variable {keyId name folder : String} {place next : Folder}

def Names (keyId name : String) : Prop :=
  ∃ small capital digits, keyId.toList = (List.replicate small ['0', 'x']).flatten ++
      (List.replicate capital ['0', 'X']).flatten ++ digits ∧
    digits ≠ [] ∧ (∀ c ∈ digits, Text.isHexDigit c = true) ∧
    name = String.ofList (digits.map Char.toUpper) ++ ".asc"

/-- One or more hexadecimal digits, in capital letters, and then `.asc`. -/
def IsFileName (name : String) : Prop :=
  ∃ digits, digits ≠ [] ∧ (∀ c ∈ digits, Key.isCanonicalDigit c = true) ∧
    name = String.ofList digits ++ ".asc"

theorem exists_marks (mark : Char) (cs : List Char) :
    ∃ n, cs = (List.replicate n ['0', mark]).flatten ++ withoutMarks mark cs := by
  induction cs using withoutMarks.induct mark with
  | case1 rest ih =>
    obtain ⟨n, parts⟩ := ih
    refine ⟨n + 1, ?_⟩
    rw [withoutMarks, if_pos rfl, List.replicate_succ, List.flatten_cons, List.append_assoc]
    conv_lhs => rw [parts]
    rfl
  | case2 c rest other =>
    refine ⟨0, ?_⟩
    rw [withoutMarks, if_neg other]
    rfl
  | case3 cs unmarked =>
    refine ⟨0, ?_⟩
    rw [withoutMarks]
    · rfl
    · exact unmarked

theorem names_of_fileName? (named : fileName? keyId = some name) : Names keyId name := by
  obtain ⟨upper, found, rfl⟩ := Option.map_eq_some_iff.mp named
  rw [digits?] at found
  split_ifs at found with proper
  cases found
  obtain ⟨small, front⟩ := exists_marks 'x' keyId.toList
  obtain ⟨capital, middle⟩ := exists_marks 'X' (withoutMarks 'x' keyId.toList)
  refine ⟨small, capital, _, ?_, ?_, ?_, rfl⟩
  · rw [List.append_assoc, ← middle]
    exact front
  · intro gone
    rw [gone] at proper
    cases proper.1
  · exact List.all_eq_true.mp proper.2

theorem Names.isFileName (names : Names keyId name) : IsFileName name := by
  obtain ⟨small, capital, digits, _, inhabited, hexadecimal, rfl⟩ := names
  refine ⟨digits.map Char.toUpper, ?_, ?_, rfl⟩
  · rw [ne_eq, List.map_eq_nil_iff]
    exact inhabited
  · intro upper member
    obtain ⟨c, listed, rfl⟩ := List.mem_map.mp member
    exact Key.isCanonicalDigit_toUpper (hexadecimal c listed)

theorem IsFileName.plain (named : IsFileName name) : Folder.Plain name := by
  obtain ⟨digits, inhabited, canonical, rfl⟩ := named
  have parts : (String.ofList digits ++ ".asc").toList = digits ++ ['.', 'a', 's', 'c'] := by
    rw [String.toList_append, String.toList_ofList]
    rfl
  refine ⟨?_, ?_⟩
  · intro same
    rw [same] at parts
    exact absurd parts.symm (List.append_ne_nil_of_right_ne_nil _ (List.cons_ne_nil _ _))
  · rw [parts, List.mem_append]
    rintro (slash | slash)
    · exact absurd (canonical '/' slash) (by decide)
    · exact absurd slash (by decide)

theorem IsFileName.head?_ne (named : IsFileName name) : name.toList.head? ≠ some '/' := by
  intro first
  exact named.plain.unbroken (List.mem_of_head? first)

/-- The way is that of the key's file, which lies directly in the folder. -/
def Locates (place : Folder) (folder keyId : String) (way : List String) : Prop :=
  ∃ outer name, Names keyId name ∧ place.locate folder = .ok outer ∧ way = outer ++ [name]

theorem Locates.mono {way : List String} (located : Locates place folder keyId way)
    (keeps : place.Keeps next) : Locates next folder keyId way := by
  obtain ⟨outer, name, names, found, rfl⟩ := located
  exact ⟨outer, name, names, Folder.locate_of_keeps keeps found, rfl⟩

/-- The path of a key's file leads through the folder, and one name further. -/
theorem names_of_path {path : String} (made : Store.path folder keyId = .ok path) :
    ∃ name, Names keyId name ∧ Folder.names path = Folder.names folder ++ [name] ∧
      ∀ place : Folder, place.start path = place.start folder := by
  unfold Store.path at made
  cases named : fileName? keyId with
  | none =>
    rw [named] at made
    cases made
  | some name =>
    rw [named] at made
    dsimp only at made
    have names := names_of_fileName? named
    have plain := names.isFileName.plain
    refine ⟨name, names, ?_⟩
    split_ifs at made with joined
    · cases made
      by_cases nowhere : folder = ""
      · subst nowhere
        rw [String.empty_append]
        refine ⟨plain.names_self, fun place => ?_⟩
        rw [place.start_of_head?_ne names.isFileName.head?_ne]
        rfl
      · have slash : Folder.endsWithSlash folder = true :=
          joined.resolve_left (by simpa using nowhere)
        exact ⟨plain.names_of_slash (beq_iff_eq.mp slash),
          fun place => place.start_append nowhere name⟩
    · cases made
      have somewhere : folder ≠ "" := by
        rintro rfl
        exact joined (.inl rfl)
      refine ⟨plain.names_of_added_slash folder, fun place => ?_⟩
      rw [String.append_assoc]
      exact place.start_append somewhere _

/-- The file that is made or emptied for a key lies directly in the folder. -/
theorem locates_of_create {path : String} {way : List String}
    (made : Store.path folder keyId = .ok path) (created : place.create path = .ok (way, next)) :
    Locates place folder keyId way := by
  obtain ⟨name, names, further, leads⟩ := names_of_path made
  obtain ⟨outer, last, ends, found, rfl, _⟩ := Folder.exists_of_create created
  rw [further, List.getLast?_concat] at ends
  cases ends
  rw [further, List.dropLast_concat, leads] at found
  exact ⟨outer, name, names, found, rfl⟩

end Vouch.Keyserver.Store
