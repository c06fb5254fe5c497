import Mathlib.Data.List.DropRight
import Mathlib.Data.String.Basic
import Mathlib.Tactic
import Vouch.Key.Name
import Vouch.Proofs.Text.Blank

/-!
Names that are their own normal form.

A name of hexadecimal digits without small letters is in normal form, and so is its long ID.  The long
ID of a fingerprint has sixteen characters, so it is never a fingerprint or a short ID itself.

A bare key ID is one that needs no mark to be cut off: all its characters are digits.
-/

namespace Vouch.Key

variable {cs : List Char} {name : String}

/-- Digits lie between the ASCII blanks and the others. -/
theorem toNat_of_isHexDigit (c : Char) (digit : Text.isHexDigit c = true) :
    48 ≤ c.toNat ∧ c.toNat ≤ 102 := by
  simp only [Text.isHexDigit, Char.isDigit, Bool.and_eq_true, Bool.or_eq_true,
    decide_eq_true_eq, Char.le_def, UInt32.le_iff_toNat_le, ge_iff_le] at digit
  unfold Char.toNat
  obtain (number | small) | capital := digit
  · change 48 ≤ c.val.toNat ∧ c.val.toNat ≤ 57 at number
    omega
  · change 97 ≤ c.val.toNat ∧ c.val.toNat ≤ 102 at small
    omega
  · change 65 ≤ c.val.toNat ∧ c.val.toNat ≤ 70 at capital
    omega

theorem isBlank_of_isHexDigit (c : Char) (digit : Text.isHexDigit c = true) :
    Text.isBlank c = false := by
  have range := toNat_of_isHexDigit c digit
  simp only [Text.isBlank, Bool.or_eq_false_iff, Bool.and_eq_false_iff,
    decide_eq_false_iff_not, beq_eq_false_iff_ne]
  omega

theorem toNat_of_isCanonicalDigit (c : Char) (digit : isCanonicalDigit c = true) :
    48 ≤ c.toNat ∧ c.toNat ≤ 102 :=
  toNat_of_isHexDigit c (Bool.and_eq_true _ _ ▸ digit).1

theorem isBlank_of_isCanonicalDigit (c : Char) (digit : isCanonicalDigit c = true) :
    Text.isBlank c = false :=
  isBlank_of_isHexDigit c (Bool.and_eq_true _ _ ▸ digit).1

theorem toUpper_of_isCanonicalDigit (c : Char) (digit : isCanonicalDigit c = true) :
    c.toUpper = c := by
  simp only [isCanonicalDigit, Bool.and_eq_true, Bool.not_eq_true', Bool.and_eq_false_iff,
    decide_eq_false_iff_not] at digit
  unfold Char.toUpper
  rw [dif_neg]
  rintro ⟨low, high⟩
  exact digit.2.elim (fun small => small low) (fun small => small high)

theorem trimChars_of_digits (digits : ∀ c ∈ cs, isCanonicalDigit c = true) :
    Text.trimChars cs = cs := by
  apply Text.trimChars_of_solid
  intro c member
  exact isBlank_of_isCanonicalDigit c (digits c member)

theorem not_isMarked_of_hexDigits (digits : ∀ c ∈ cs, Text.isHexDigit c = true) :
    isMarked cs = false := by
  unfold isMarked
  split
  · have wrong := digits 'x' (by simp)
    exact absurd wrong (by decide)
  · have wrong := digits 'X' (by simp)
    exact absurd wrong (by decide)
  · rfl

theorem withoutMark_of_not_isMarked (bare : isMarked cs = false) : withoutMark cs = cs := by
  unfold withoutMark
  split
  · cases bare
  · cases bare
  · rfl

theorem not_isMarked_of_digits (digits : ∀ c ∈ cs, isCanonicalDigit c = true) :
    isMarked cs = false := by
  apply not_isMarked_of_hexDigits
  intro c member
  have canonical := digits c member
  rw [isCanonicalDigit, Bool.and_eq_true] at canonical
  exact canonical.1

theorem withoutMark_of_digits (digits : ∀ c ∈ cs, isCanonicalDigit c = true) :
    withoutMark cs = cs :=
  withoutMark_of_not_isMarked (not_isMarked_of_digits digits)

/-- Digits without small letters are in normal form. -/
theorem normalChars_of_digits (digits : ∀ c ∈ cs, isCanonicalDigit c = true) :
    normalChars cs = cs := by
  have solid : Text.withoutBlanks cs = cs :=
    Text.withoutBlanks_of_solid fun c member => isBlank_of_isCanonicalDigit c (digits c member)
  have upper : cs.map Char.toUpper = cs := by
    rw [List.map_congr_left fun c member => toUpper_of_isCanonicalDigit c (digits c member)]
    exact List.map_id' cs
  rw [normalChars, trimChars_of_digits digits, withoutMark_of_digits digits, solid, upper]

theorem length_lastSixteen_le (cs : List Char) : (lastSixteen cs).length ≤ 16 := by
  rw [lastSixteen, List.length_drop]
  omega

theorem lastSixteen_of_short (short : cs.length ≤ 16) : lastSixteen cs = cs := by
  rw [lastSixteen, Nat.sub_eq_zero_of_le short, List.drop_zero]

/-- All characters of the name are hexadecimal digits without small letters. -/
def IsDigits (name : String) : Prop :=
  ∀ c ∈ name.toList, isCanonicalDigit c = true

instance (name : String) : Decidable (IsDigits name) :=
  List.decidableBAll _ name.toList

theorem normal_of_isDigits (digits : IsDigits name) : normal name = name := by
  rw [normal, normalChars_of_digits digits, String.ofList_toList]

theorem toList_longId_of_isDigits (digits : IsDigits name) :
    (longId name).toList = lastSixteen name.toList := by
  rw [longId, normalChars_of_digits digits, String.toList_ofList]

theorem isDigits_longId (digits : IsDigits name) : IsDigits (longId name) := by
  intro c member
  rw [toList_longId_of_isDigits digits] at member
  exact digits c (List.mem_of_mem_drop member)

theorem isFingerprint_iff : isFingerprint name = true ↔ name.toList.length = 40 ∧ IsDigits name := by
  rw [isFingerprint, Bool.and_eq_true, beq_iff_eq, List.all_eq_true]
  rfl

theorem isDigits_of_isFingerprint (fingerprint : isFingerprint name = true) : IsDigits name :=
  (isFingerprint_iff.mp fingerprint).2

theorem length_of_isFingerprint (fingerprint : isFingerprint name = true) :
    name.toList.length = 40 :=
  (isFingerprint_iff.mp fingerprint).1

theorem ne_empty_of_isFingerprint (fingerprint : isFingerprint name = true) : name ≠ "" := by
  rintro rfl
  cases fingerprint

theorem length_longId_of_isFingerprint (fingerprint : isFingerprint name = true) :
    (longId name).toList.length = 16 := by
  rw [toList_longId_of_isDigits (isDigits_of_isFingerprint fingerprint), lastSixteen,
    List.length_drop, length_of_isFingerprint fingerprint]

/-- No character takes less than a byte. -/
theorem length_le_utf8ByteSize (name : String) : name.toList.length ≤ name.utf8ByteSize := by
  have bytes : ∀ cs : List Char, cs.length ≤ String.utf8Len cs := by
    intro cs
    induction cs with
    | nil => exact le_rfl
    | cons c rest ih =>
      have positive := c.utf8Size_pos
      rw [String.utf8Len_cons, List.length_cons]
      omega
  have size := String.utf8ByteSize_ofList name.toList
  rw [String.ofList_toList] at size
  rw [size]
  exact bytes name.toList

theorem utf8ByteSize_of_isDigits (digits : IsDigits name) :
    name.utf8ByteSize = name.toList.length := by
  have one_byte : ∀ cs : List Char, (∀ c ∈ cs, isCanonicalDigit c = true) →
      String.utf8Len cs = cs.length := by
    intro cs all
    induction cs with
    | nil => rfl
    | cons c rest ih =>
      have range := toNat_of_isCanonicalDigit c (all c List.mem_cons_self)
      have ascii : c.utf8Size = 1 := by
        have small : c.val.toNat ≤ 102 := range.2
        rw [Char.utf8Size_eq_one_iff, UInt32.le_iff_toNat_le]
        exact small.trans (by decide)
      rw [String.utf8Len_cons, List.length_cons, ascii,
        ih fun d member => all d (List.mem_cons_of_mem c member)]
  have size := String.utf8ByteSize_ofList name.toList
  rw [String.ofList_toList] at size
  rw [size, one_byte name.toList digits]

theorem length_longId (digits : IsDigits name) :
    (longId name).toList.length = min 16 name.toList.length := by
  rw [toList_longId_of_isDigits digits, lastSixteen, List.length_drop]
  omega

theorem longId_of_short (digits : IsDigits name)
    (short : name.toList.length ≤ 16) : longId name = name := by
  apply String.toList_inj.mp
  rw [toList_longId_of_isDigits digits, lastSixteen_of_short short]

theorem longId_ne_of_isFingerprint {other : String} (fingerprint : isFingerprint name = true)
    (listed : isFingerprint other = true) : longId name ≠ other := by
  intro same
  have short := length_longId_of_isFingerprint fingerprint
  rw [same, length_of_isFingerprint listed] at short
  omega

/-- A text that was trimmed has no blanks at its ends. -/
theorem trimChars_trimChars (cs : List Char) :
    Text.trimChars (Text.trimChars cs) = Text.trimChars cs := by
  have front : Text.trimFront (Text.trimChars cs) = Text.trimChars cs := by
    refine List.dropWhile_eq_self_iff.mpr ?_
    intro inhabited
    have leading : Text.trimChars cs <+: Text.trimFront cs := List.rdropWhile_prefix _ _
    have positive : 0 < (Text.trimFront cs).length := inhabited.trans_le leading.length_le
    rw [leading.getElem inhabited]
    exact List.dropWhile_get_zero_not _ _ positive
  have back : Text.trimBack (Text.trimChars cs) = Text.trimChars cs :=
    List.rdropWhile_idempotent _ _
  rw [Text.trimChars, front, back]

def BareId (term : String) : Prop :=
  (term.toList.length = 8 ∨ term.toList.length = 16 ∨ term.toList.length = 40) ∧
    ∀ c ∈ term.toList, Text.isHexDigit c = true

theorem isBareKeyId_trim_iff (query : String) :
    isBareKeyId (Text.trim query) = true ↔ BareId (Text.trim query) := by
  have trimmed : (Text.trim query).toList = Text.trimChars query.toList := String.toList_ofList
  unfold isBareKeyId isKeyId BareId
  rw [trimmed, trimChars_trimChars]
  simp only [Bool.and_eq_true, Bool.not_eq_true', Bool.or_eq_true, beq_iff_eq, List.all_eq_true]
  constructor
  · rintro ⟨bare, lengths, digits⟩
    rw [withoutMark_of_not_isMarked bare] at lengths digits
    exact ⟨or_assoc.mp lengths, digits⟩
  · rintro ⟨lengths, digits⟩
    have bare := not_isMarked_of_hexDigits digits
    rw [withoutMark_of_not_isMarked bare]
    exact ⟨bare, or_assoc.mpr lengths, digits⟩

/-- Eight, sixteen or forty hexadecimal digits, with or without a mark before them. -/
def IsId (term : String) : Prop :=
  ∃ mark digits : List Char, term.toList = mark ++ digits ∧
    (mark = [] ∨ mark = ['0', 'x'] ∨ mark = ['0', 'X']) ∧
    (digits.length = 8 ∨ digits.length = 16 ∨ digits.length = 40) ∧
    ∀ c ∈ digits, Text.isHexDigit c = true

theorem isKeyId_trim_of_isId {query : String} (id : IsId query) :
    isKeyId (Text.trim query) = true := by
  obtain ⟨mark, digits, parts, marks, lengths, hex⟩ := id
  have solid_mark : ∀ c ∈ mark, Text.isBlank c = false := by
    obtain rfl | rfl | rfl := marks
    · exact nofun
    · exact List.forall_mem_cons.mpr ⟨rfl, List.forall_mem_singleton.mpr rfl⟩
    · exact List.forall_mem_cons.mpr ⟨rfl, List.forall_mem_singleton.mpr rfl⟩
  have solid : ∀ c ∈ query.toList, Text.isBlank c = false := by
    rw [parts]
    exact List.forall_mem_append.mpr
      ⟨solid_mark, fun c member => isBlank_of_isHexDigit c (hex c member)⟩
  have cut : withoutMark (mark ++ digits) = digits := by
    obtain rfl | rfl | rfl := marks
    · exact withoutMark_of_not_isMarked (not_isMarked_of_hexDigits hex)
    · rfl
    · rfl
  have trimmed : (Text.trim query).toList = query.toList := by
    rw [Text.trim, String.toList_ofList, Text.trimChars_of_solid solid]
  rw [isKeyId, trimmed, Text.trimChars_of_solid solid, parts, cut]
  simp only [Bool.and_eq_true, Bool.or_eq_true, beq_iff_eq, List.all_eq_true]
  exact ⟨or_assoc.mpr lengths, hex⟩

end Vouch.Key
