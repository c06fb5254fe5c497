import Mathlib.Tactic
import Vouch.Folder
import Vouch.Proofs.Except
import Vouch.Proofs.Text.Line

/-!
What changes in a place, and what stays.

Nothing ever takes a folder away, so a way that was found stays the same.  Making folders changes no
file.  A file changes when it is made or emptied, and when bytes are written to it.
-/

namespace Vouch

namespace Folder

def fileAt? (place : Folder) (way : List String) : Option ByteArray :=
  match place.entryAt? way with
  | some (.file content) => some content
  | _ => none

variable {place middle next : Folder} {way other names : List String} {name path : String}
  {entry : Entry} {problem : File.Problem}

theorem isFolder_iff : place.isFolder way = true ↔ place.entryAt? way = some .folder := by
  unfold isFolder
  split
  next inside => simp [inside]
  next outside => simpa using outside

theorem lookup_filter_of_ne (entries : List (List String × Entry)) (differs : other ≠ way) :
    (entries.filter (·.1 != way)).lookup other = entries.lookup other := by
  induction entries with
  | nil => rfl
  | cons first rest ih =>
    obtain ⟨label, inner⟩ := first
    by_cases same : label = way
    · subst same
      have apart : (other == label) = false := beq_eq_false_iff_ne.mpr differs
      rw [List.filter_cons_of_neg (by simp), List.lookup_cons, apart, ih]
    · rw [List.filter_cons_of_pos (by simpa using same), List.lookup_cons, List.lookup_cons, ih]

theorem entryAt?_set (inner : way ≠ []) (other : List String) :
    (place.set way entry).entryAt? other = if other = way then some entry else place.entryAt? other := by
  cases other with
  | nil => rw [if_neg inner.symm]; rfl
  | cons name rest =>
    change ((way, entry) :: place.entries.filter (·.1 != way)).lookup (name :: rest) = _
    by_cases same : name :: rest = way
    · rw [if_pos same, same, List.lookup_cons_self]
    · have apart : (name :: rest == way) = false := beq_eq_false_iff_ne.mpr same
      rw [if_neg same, List.lookup_cons, apart]
      exact lookup_filter_of_ne place.entries same

theorem fileAt?_set_file (inner : way ≠ []) (content : ByteArray) (other : List String) :
    (place.set way (.file content)).fileAt? other =
      if other = way then some content else place.fileAt? other := by
  unfold fileAt?
  rw [entryAt?_set inner]
  split_ifs <;> rfl

/-- No folder of the first place is missing in the second. -/
structure Keeps (place next : Folder) : Prop where
  here_eq : next.here = place.here
  isFolder : ∀ way, place.isFolder way = true → next.isFolder way = true

namespace Keeps

theorem refl (place : Folder) : place.Keeps place :=
  ⟨rfl, fun _ => id⟩

theorem trans (first : place.Keeps middle) (second : middle.Keeps next) : place.Keeps next :=
  ⟨second.here_eq.trans first.here_eq, fun way inside => second.isFolder way (first.isFolder way inside)⟩

theorem set (inner : way ≠ []) (vacant : place.isFolder way = true → entry = .folder) :
    place.Keeps (place.set way entry) := by
  refine ⟨rfl, fun other inside => ?_⟩
  rw [isFolder_iff, entryAt?_set inner]
  by_cases same : other = way
  · subst same
    rw [if_pos rfl, vacant inside]
  · rw [if_neg same]
    exact isFolder_iff.mp inside

end Keeps

/-! ### Ways -/

/-- Names that lead to a folder lead to it for good. -/
theorem walk_of_keeps (keeps : place.Keeps next) (found : place.walk way names = .ok other)
    (inside : place.isFolder other = true) : next.walk way names = .ok other := by
  induction names generalizing way with
  | nil => exact found
  | cons name rest ih =>
    rw [walk] at found ⊢
    by_cases here : name = "."
    · rw [if_pos here] at found ⊢
      exact ih found
    by_cases back : name = ".."
    · rw [if_neg here, if_pos back] at found ⊢
      exact ih found
    by_cases long : longestName < name.utf8ByteSize
    · rw [if_neg here, if_neg back, if_pos long] at found
      cases found
    rw [if_neg here, if_neg back, if_neg long] at found ⊢
    cases entry : place.entryAt? (way ++ [name]) with
    | none =>
      rw [entry] at found
      cases found
    | some inner =>
      rw [entry] at found
      cases inner with
      | folder =>
        rw [isFolder_iff.mp (keeps.isFolder _ (isFolder_iff.mpr entry))]
        exact ih found
      | file content =>
        -- A file can only be the last, and then it is no folder.
        dsimp only at found
        split_ifs at found
        cases found
        rw [isFolder_iff, entry] at inside
        cases inside

theorem folderAt_eq_ok_iff :
    place.folderAt way names = .ok other ↔
      place.walk way names = .ok other ∧ place.isFolder other = true := by
  unfold folderAt
  cases place.walk way names with
  | error problem => exact iff_of_false nofun (fun found => nomatch found.1)
  | ok found =>
    by_cases inside : place.isFolder found = true
    · change (if place.isFolder found = true then _ else _) = _ ↔ _
      rw [if_pos inside]
      constructor
      · rintro ⟨⟩
        exact ⟨rfl, inside⟩
      · rintro ⟨⟨⟩, _⟩
        rfl
    · change (if place.isFolder found = true then _ else _) = _ ↔ _
      rw [if_neg inside]
      refine iff_of_false nofun ?_
      rintro ⟨⟨⟩, there⟩
      exact inside there

theorem folderAt_of_keeps (keeps : place.Keeps next) (found : place.folderAt way names = .ok other) :
    next.folderAt way names = .ok other := by
  obtain ⟨leads, inside⟩ := folderAt_eq_ok_iff.mp found
  exact folderAt_eq_ok_iff.mpr ⟨walk_of_keeps keeps leads inside, keeps.isFolder _ inside⟩

theorem locate_of_keeps (keeps : place.Keeps next) (found : place.locate path = .ok way) :
    next.locate path = .ok way := by
  have same : next.start path = place.start path := by
    unfold start
    rw [keeps.here_eq]
  unfold locate at found ⊢
  rw [same]
  exact folderAt_of_keeps keeps found

/-! ### Making folders -/

structure OnlyFolders (place next : Folder) : Prop extends place.Keeps next where
  fileAt?_eq : ∀ way, next.fileAt? way = place.fileAt? way

theorem OnlyFolders.refl (place : Folder) : place.OnlyFolders place :=
  ⟨.refl place, fun _ => rfl⟩

theorem OnlyFolders.trans (first : place.OnlyFolders middle) (second : middle.OnlyFolders next) :
    place.OnlyFolders next :=
  ⟨first.toKeeps.trans second.toKeeps, fun way => (second.fileAt?_eq way).trans (first.fileAt?_eq way)⟩

theorem onlyFolders_of_makeOne (made : place.makeOne way names = .ok next) :
    place.OnlyFolders next := by
  unfold makeOne at made
  cases last : names.getLast? with
  | none =>
    rw [last] at made
    cases made
  | some name =>
    rw [last] at made
    obtain ⟨outer, _, made⟩ := ok_of_bind made
    split_ifs at made with special long there
    · cases made
      have inner : outer ++ [name] ≠ [] := List.append_ne_nil_of_right_ne_nil _ (List.cons_ne_nil _ _)
      refine ⟨.set inner fun _ => rfl, fun other => ?_⟩
      unfold fileAt?
      rw [entryAt?_set inner]
      split_ifs with same
      · rw [same, Option.not_isSome_iff_eq_none.mp there]
      · rfl

theorem onlyFolders_makeAll (place : Folder) (way : List String) (around : List (List String)) :
    place.OnlyFolders (place.makeAll way around).1 := by
  induction around generalizing place with
  | nil => exact .refl place
  | cons names around ih =>
    rw [makeAll]
    split
    case h_1 made => exact onlyFolders_of_makeOne made
    case h_2 =>
      have outside := ih place
      split
      case h_1 made => rwa [made] at outside
      case h_2 made =>
        rw [made] at outside
        split
        case h_1 inside => exact outside.trans (onlyFolders_of_makeOne inside)
        case h_2 => exact outside
    case h_3 => exact .refl place

/-- Making folders, whether it succeeds or not. -/
theorem onlyFolders_makeFolder (place : Folder) (path : String) :
    place.OnlyFolders (place.makeFolder path).1 := by
  unfold makeFolder
  split_ifs
  · exact .refl place
  · cases flaw? path with
    | some flaw => exact .refl place
    | none => exact onlyFolders_makeAll place _ _

/-! ### Writing -/

/-- A file is made, or emptied, in a folder that is there. -/
theorem exists_of_create (created : place.create path = .ok (way, next)) :
    ∃ outer name, (Folder.names path).getLast? = some name ∧
      place.folderAt (place.start path) (Folder.names path).dropLast = .ok outer ∧
      way = outer ++ [name] ∧ place.Keeps next ∧
      ∀ other, next.fileAt? other = if other = way then some .empty else place.fileAt? other := by
  unfold create at created
  split at created
  case h_1 => cases created
  case h_2 => cases created
  case h_3 name _ last =>
    obtain ⟨outer, found, created⟩ := ok_of_bind created
    split_ifs at created with special long inside
    cases created
    have inner : outer ++ [name] ≠ [] := List.append_ne_nil_of_right_ne_nil _ (List.cons_ne_nil _ _)
    exact ⟨outer, name, last, found, rfl, .set inner fun there => absurd there inside,
      fileAt?_set_file inner _⟩

theorem keeps_writeAt (place : Folder) (way : List String) (offset : Nat) (bytes : ByteArray) :
    place.Keeps (place.writeAt way offset bytes) := by
  unfold writeAt
  split
  case h_1 content found =>
    have inner : way ≠ [] := by
      rintro rfl
      cases found
    refine .set inner fun there => ?_
    rw [isFolder_iff, found] at there
    cases there
  case h_2 => exact .refl place

theorem fileAt?_writeAt (place : Folder) (way : List String) (offset : Nat) (bytes : ByteArray)
    (other : List String) :
    (place.writeAt way offset bytes).fileAt? other =
      if other = way then (place.fileAt? way).map (patched · offset bytes)
      else place.fileAt? other := by
  unfold writeAt
  split
  case h_1 content found =>
    have inner : way ≠ [] := by
      rintro rfl
      cases found
    have held : place.fileAt? way = some content := by
      rw [fileAt?, found]
    rw [fileAt?_set_file inner, held, Option.map_some]
  case h_2 other_entry =>
    have held : place.fileAt? way = none := by
      unfold fileAt?
      split
      case h_1 content found => exact absurd found (other_entry content)
      case h_2 => rfl
    rw [held, Option.map_none]
    split_ifs with same
    · rw [same, held]
    · rfl

theorem extract_size (content : ByteArray) (offset count : Nat) :
    content.extract offset (offset + (content.extract offset (offset + count)).size) =
      content.extract offset (offset + count) := by
  ext1
  rw [ByteArray.data_extract, ByteArray.data_extract, Array.extract_eq_extract_right,
    ByteArray.size_extract, ByteArray.size_data]
  omega

/-- Bytes that are written at the end of a part of a content make the part longer. -/
theorem patched_extract {content bytes : ByteArray} {written : Nat} (fits : written ≤ content.size)
    (part : content.extract written (written + bytes.size) = bytes) :
    patched (content.extract 0 written) written bytes =
      content.extract 0 (written + bytes.size) := by
  have size : (content.extract 0 written).size = written := by
    rw [ByteArray.size_extract]
    omega
  have front : (content.extract 0 written).extract 0 written = content.extract 0 written := by
    rw [ByteArray.extract_extract, Nat.zero_add, Nat.zero_add, Nat.min_self]
  have back : (content.extract 0 written).extract (written + bytes.size) written = .empty := by
    rw [ByteArray.extract_eq_empty_iff, size]
    omega
  calc
    _ = content.extract 0 written ++ .empty ++ bytes ++ .empty := by
      rw [patched, size, front, back, Nat.sub_self]
      rfl
    _ = content.extract 0 written ++ content.extract written (written + bytes.size) := by
      rw [ByteArray.append_empty, ByteArray.append_empty, part]
    _ = _ := by
      rw [ByteArray.extract_append_extract, Nat.zero_min, Nat.max_eq_right (Nat.le_add_right _ _)]

/-! ### Paths with a name added -/

structure Plain (name : String) : Prop where
  inhabited : name ≠ ""
  unbroken : '/' ∉ name.toList

variable {outer : String}

def namesOf (pieces : List (List Char)) : List String :=
  (pieces.filter (!·.isEmpty)).map String.ofList

theorem namesOf_append (first second : List (List Char)) :
    namesOf (first ++ second) = namesOf first ++ namesOf second := by
  rw [namesOf, List.filter_append, List.map_append]
  rfl

theorem Plain.namesOf_singleton (plain : Plain name) : namesOf [name.toList] = [name] := by
  have inhabited : name.toList.isEmpty = false := by
    simpa [List.isEmpty_eq_false_iff] using plain.inhabited
  simp [namesOf, inhabited]

theorem Plain.pieces (plain : Plain name) : Text.pieces '/' name.toList = [name.toList] :=
  Text.pieces_of_not_mem plain.unbroken

theorem Plain.names_append (plain : Plain name) {front : List Char}
    (parts : path.toList = front ++ '/' :: name.toList) :
    Folder.names path = namesOf (Text.pieces '/' front) ++ [name] := by
  calc
    Folder.names path = namesOf (Text.pieces '/' path.toList) := rfl
    _ = namesOf (Text.pieces '/' front) ++ namesOf [name.toList] := by
      rw [parts, Text.pieces_append_cons, plain.pieces, namesOf_append]
    _ = namesOf (Text.pieces '/' front) ++ [name] := by rw [plain.namesOf_singleton]

/-- A slash at the end of a path may be there already. -/
theorem Plain.names_of_slash (plain : Plain name) (slash : outer.toList.getLast? = some '/') :
    Folder.names (outer ++ name) = Folder.names outer ++ [name] := by
  have parts := List.dropLast_append_getLast? '/' slash
  have cut : Folder.names outer = namesOf (Text.pieces '/' outer.toList.dropLast) := by
    change namesOf (Text.pieces '/' outer.toList) = _
    conv_lhs => rw [← parts, Text.pieces_append_cons, namesOf_append]
    exact List.append_nil _
  rw [cut]
  apply plain.names_append
  rw [String.toList_append]
  conv_lhs => rw [← parts, List.append_assoc, List.singleton_append]

theorem Plain.names_of_added_slash (plain : Plain name) (outer : String) :
    Folder.names (outer ++ "/" ++ name) = Folder.names outer ++ [name] := by
  apply plain.names_append
  rw [String.toList_append, String.toList_append, List.append_assoc]
  rfl

theorem Plain.names_self (plain : Plain name) : Folder.names name = [name] := by
  change namesOf (Text.pieces '/' name.toList) = _
  rw [plain.pieces, plain.namesOf_singleton]

theorem start_append (place : Folder) (inhabited : outer ≠ "") (added : String) :
    place.start (outer ++ added) = place.start outer := by
  have some_char : outer.toList ≠ [] := by
    simpa using inhabited
  obtain ⟨c, rest, parts⟩ := List.exists_cons_of_ne_nil some_char
  unfold start
  rw [String.toList_append, parts]
  rfl

/-- A path that does not start with a slash leads from the working folder. -/
theorem start_of_head?_ne (place : Folder) (first : path.toList.head? ≠ some '/') :
    place.start path = place.here :=
  if_neg first

end Folder

end Vouch
