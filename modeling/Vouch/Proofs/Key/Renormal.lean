import Mathlib.Tactic
import Vouch.Key.Snapshot
import Vouch.Keyserver.Query
import Vouch.Proofs.Key.Inserted
import Vouch.Proofs.Key.Spelling

/-!
Names that are brought to normal form more than once.

A name in normal form has no blanks and no small letters, but a mark may stand at its front: a second one
of the name, or one that had a blank in it.  The cut to sixteen characters may bring one to the front of
a long ID, too.  Normalizing once more takes away this mark and nothing else, so that a name without one
stays the same in all stages that normalize it again.
-/

namespace Vouch.Key

theorem toUpper_of_mem_normalChars {cs : List Char} {c : Char} (member : c ∈ normalChars cs) :
    c.toUpper = c := by
  obtain ⟨d, _, rfl⟩ := List.mem_map.mp member
  exact Text.toUpper_toUpper d

theorem withoutMark_sublist (cs : List Char) : (withoutMark cs).Sublist cs := by
  obtain same | small | capital := withoutMark_cases cs
  · exact same ▸ List.Sublist.refl _
  · conv_rhs => rw [small]
    exact ((List.Sublist.refl _).cons _).cons _
  · conv_rhs => rw [capital]
    exact ((List.Sublist.refl _).cons _).cons _

theorem withoutMark_eq_self_iff (cs : List Char) : withoutMark cs = cs ↔ isMarked cs = false := by
  constructor
  · intro same
    unfold isMarked
    split
    case h_1 rest =>
      have length : rest.length = rest.length + 2 := congrArg List.length same
      omega
    case h_2 rest =>
      have length : rest.length = rest.length + 2 := congrArg List.length same
      omega
    case h_3 => rfl
  · exact withoutMark_of_not_isMarked

/-- Of solid characters in upper case, only a mark is taken away. -/
theorem normalChars_of_settled {cs : List Char} (solid : ∀ c ∈ cs, Text.isBlank c = false)
    (upper : ∀ c ∈ cs, c.toUpper = c) : normalChars cs = withoutMark cs := by
  have kept := (withoutMark_sublist cs).subset
  have solid_rest : Text.withoutBlanks (withoutMark cs) = withoutMark cs :=
    Text.withoutBlanks_of_solid fun c member => solid c (kept member)
  have upper_rest : (withoutMark cs).map Char.toUpper = withoutMark cs := by
    rw [List.map_congr_left fun c member => upper c (kept member)]
    exact List.map_id' _
  rw [normalChars, Text.trimChars_of_solid solid, solid_rest, upper_rest]

theorem normalChars_normalChars (cs : List Char) :
    normalChars (normalChars cs) = withoutMark (normalChars cs) :=
  normalChars_of_settled (solid_normalChars cs) fun _ => toUpper_of_mem_normalChars

theorem normalChars_lastSixteen (cs : List Char) :
    normalChars (lastSixteen (normalChars cs)) = withoutMark (lastSixteen (normalChars cs)) := by
  have kept : lastSixteen (normalChars cs) ⊆ normalChars cs := (List.drop_suffix _ _).subset
  exact normalChars_of_settled (fun c member => solid_normalChars cs c (kept member))
    fun _ member => toUpper_of_mem_normalChars (kept member)

section
variable (name : String)

theorem toList_normal : (normal name).toList = normalChars name.toList :=
  String.toList_ofList

theorem toList_longId : (longId name).toList = lastSixteen (normalChars name.toList) :=
  String.toList_ofList

theorem normal_normal : normal (normal name) = String.ofList (withoutMark (normal name).toList) := by
  rw [normal, toList_normal, normalChars_normalChars]

theorem longId_longId_eq : longId (longId name) = String.ofList (withoutMark (longId name).toList) := by
  have short : (withoutMark (lastSixteen (normalChars name.toList))).length ≤ 16 :=
    (withoutMark_sublist _).length_le.trans (length_lastSixteen_le _)
  rw [longId, toList_longId, normalChars_lastSixteen, lastSixteen_of_short short]

end

theorem ofList_withoutMark_eq_iff (name : String) :
    String.ofList (withoutMark name.toList) = name ↔ isMarked name.toList = false := by
  rw [← withoutMark_eq_self_iff, ← String.toList_inj, String.toList_ofList]

/-- The stages that normalize the normal form of a name have the same identifier as those that normalize
the name itself. -/
structure SameInStages (name : String) : Prop where
  found : ∀ db : Snapshot, db.byFingerprint? (normal name) = db.byFingerprint? name
  primaryId : ∀ algorithm, (Reference.ofName name algorithm).primaryId = longId name
  term : Keyserver.termFor (normal name) = Keyserver.termFor name

theorem sameInStages_of_not_isMarked {name : String} (bare : isMarked (normal name).toList = false) :
    SameInStages name := by
  have same : normal (normal name) = normal name :=
    (normal_normal name).trans ((ofList_withoutMark_eq_iff _).mpr bare)
  constructor
  case found =>
    intro db
    rw [Snapshot.byFingerprint?, Snapshot.byFingerprint?, Snapshot.named?, Snapshot.named?, same]
  case primaryId =>
    intro algorithm
    have chars : normalChars (normal name).toList = normalChars name.toList := by
      rw [← toList_normal (normal name), same, toList_normal]
    change longId (normal name) = longId name
    rw [longId, longId, chars]
  case term => rw [Keyserver.termFor, Keyserver.termFor, same]

/-- To normalize a second time takes away one mark and nothing else, and so it changes nothing exactly if
the first time has left no mark in front.  Then all stages have the same identifier.  A name spelled in
digits has no mark left, in its normal form or in its long ID. -/
theorem normal_again (name : String) :
    (normal (normal name) = String.ofList (withoutMark (normal name).toList) ∧
      longId (longId name) = String.ofList (withoutMark (longId name).toList)) ∧
    (normal (normal name) = normal name ↔ isMarked (normal name).toList = false) ∧
    (longId (longId name) = longId name ↔ isMarked (longId name).toList = false) ∧
    (isMarked (normal name).toList = false → SameInStages name) ∧
    ∀ digits, IsDigits digits → Spells digits name →
      isMarked (normal name).toList = false ∧ isMarked (longId name).toList = false := by
  refine ⟨⟨normal_normal name, longId_longId_eq name⟩, ?_, ?_, sameInStages_of_not_isMarked, ?_⟩
  · rw [normal_normal, ofList_withoutMark_eq_iff]
  · rw [longId_longId_eq, ofList_withoutMark_eq_iff]
  · intro digits canonical spelled
    obtain rfl := normal_of_spells canonical spelled
    refine ⟨not_isMarked_of_digits canonical, ?_⟩
    rw [← longId_normal canonical]
    exact not_isMarked_of_digits (isDigits_longId canonical)

/-- A name that spells a short ID in small letters, with blanks and a mark, is settled at once. -/
theorem normal_again_of_spaced_id :
    IsDigits "DEADBEEF" ∧ Spells "DEADBEEF" " 0Xdead beef\n" ∧
      normal (normal " 0Xdead beef\n") = normal " 0Xdead beef\n" ∧ SameInStages " 0Xdead beef\n" := by
  have digits : IsDigits "DEADBEEF" := by decide
  have spelled : Spells "DEADBEEF" " 0Xdead beef\n" := (spells_iff digits).mpr (by decide +kernel)
  obtain ⟨-, settled, -, stages, spelling⟩ := normal_again " 0Xdead beef\n"
  have bare := (spelling _ digits spelled).1
  exact ⟨digits, spelled, settled.mpr bare, stages bare⟩

/-- A second mark is taken away by the second time only, and one that the cut to sixteen characters
brings to the front is taken from the long ID. -/
theorem second_mark_lost :
    (normal "0x0xAB" = "0XAB" ∧ normal (normal "0x0xAB") ≠ normal "0x0xAB") ∧
      (longId "AB0xCDEF0123456789" = "0XCDEF0123456789" ∧
        longId (longId "AB0xCDEF0123456789") ≠ longId "AB0xCDEF0123456789") ∧
      (Reference.ofName "0x0xAB" "RSA").primaryId ≠ longId "0x0xAB" := by
  decide +kernel

end Vouch.Key
