import Mathlib.Tactic
import Vouch.Proofs.Text.Utf8
import Vouch.Text.Percent

/-!
Texts with escapes in them stand for one text each.

Who writes a text chooses for each character between the character itself, if it is a plain one, and
the escapes of all its bytes, with digits in either letter case.  All that is written for a text
reads back as the text.
-/

namespace Vouch.Text

inductive EscapedBytes : List UInt8 → List Char → Prop
  | nil : EscapedBytes [] []
  | cons {byte : UInt8} {bytes : List UInt8} {high low : Char} {text : List Char} :
      hexValue? high = some (byte.toNat / 16) → hexValue? low = some (byte.toNat % 16) →
      EscapedBytes bytes text → EscapedBytes (byte :: bytes) ('%' :: high :: low :: text)

/-- Characters and what is written for them, where plain ones may stand for themselves. -/
inductive Escaped (plain : Char → Prop) : List Char → List Char → Prop
  | nil : Escaped plain [] []
  | plain {c : Char} {cs text : List Char} :
      plain c → Escaped plain cs text → Escaped plain (c :: cs) (c :: text)
  | bytes {c : Char} {cs spelled text : List Char} :
      EscapedBytes (String.utf8EncodeChar c) spelled → Escaped plain cs text →
      Escaped plain (c :: cs) (spelled ++ text)

variable {plain : Char → Prop} {bytes : List UInt8} {cs text spelled : List Char}

theorem hexValue?_hexDigit : ∀ n < 16, hexValue? (hexDigit n) = some n := by
  decide

theorem escapedBytes_escapeByte (bytes : List UInt8) :
    EscapedBytes bytes (bytes.flatMap escapeByte) := by
  induction bytes with
  | nil => exact .nil
  | cons byte rest ih =>
    have bound := byte.toNat_lt
    exact .cons (hexValue?_hexDigit _ (by omega)) (hexValue?_hexDigit _ (by omega)) ih

theorem escaped_percentEscaped {kept : Char → Bool} (may : ∀ c, kept c = true → plain c)
    (cs : List Char) : Escaped plain cs (percentEscaped kept cs) := by
  induction cs with
  | nil => exact .nil
  | cons c rest ih =>
    rw [percentEscaped, List.flatMap_cons]
    by_cases itself : kept c = true
    · rw [if_pos itself]
      exact .plain (may c itself) ih
    · rw [if_neg itself]
      exact .bytes (escapedBytes_escapeByte _) ih

theorem percentEscaped_ne_nil (kept : Char → Bool) (inhabited : cs ≠ []) :
    percentEscaped kept cs ≠ [] := by
  obtain ⟨c, rest, rfl⟩ := List.exists_cons_of_ne_nil inhabited
  have spelled : String.utf8EncodeChar c ≠ [] := String.utf8EncodeChar_ne_nil
  obtain ⟨byte, bytes, encoded⟩ := List.exists_cons_of_ne_nil spelled
  rw [percentEscaped, List.flatMap_cons, encoded]
  split_ifs
  · exact List.cons_ne_nil _ _
  · exact List.cons_ne_nil _ _

theorem escapedByte?_of_hexValue? {byte : UInt8} {high low : Char}
    (high_value : hexValue? high = some (byte.toNat / 16))
    (low_value : hexValue? low = some (byte.toNat % 16)) : escapedByte? high low = some byte := by
  rw [escapedByte?, high_value, low_value]
  simp only [Nat.div_add_mod, UInt8.ofNat_toNat]

theorem lt_of_hexValue? {c : Char} {n : Nat} (value : hexValue? c = some n) : n < 16 := by
  simp only [hexValue?, Char.isDigit, Bool.and_eq_true, decide_eq_true_eq, Char.le_def,
    UInt32.le_iff_toNat_le] at value
  split_ifs at value with number small capital
  · cases value
    change 48 ≤ c.toNat ∧ c.toNat ≤ 57 at number
    omega
  · cases value
    change 97 ≤ c.toNat ∧ c.toNat ≤ 102 at small
    omega
  · cases value
    change 65 ≤ c.toNat ∧ c.toNat ≤ 70 at capital
    omega

theorem escapedByte?_eq_some_iff {byte : UInt8} {high low : Char} :
    escapedByte? high low = some byte ↔
      hexValue? high = some (byte.toNat / 16) ∧ hexValue? low = some (byte.toNat % 16) := by
  constructor
  · intro found
    unfold escapedByte? at found
    split at found
    case h_1 h l high_value low_value =>
      cases found
      have high_bound := lt_of_hexValue? high_value
      have low_bound := lt_of_hexValue? low_value
      rw [high_value, low_value, UInt8.toNat_ofNat']
      constructor
      · congr 1
        omega
      · congr 1
        omega
    case h_2 => cases found
  · rintro ⟨high_value, low_value⟩
    exact escapedByte?_of_hexValue? high_value low_value

theorem unescapedBytes_of_escapedBytes (escaped : EscapedBytes bytes spelled) :
    unescapedBytes (spelled ++ text) = bytes ++ unescapedBytes text := by
  induction escaped with
  | nil => rfl
  | cons high_value low_value _ ih =>
    rw [List.cons_append, List.cons_append, List.cons_append, unescapedBytes,
      escapedByte?_of_hexValue? high_value low_value, ih, List.cons_append]

theorem unescapedBytes_of_ne {c : Char} (other : c ≠ '%') :
    unescapedBytes (c :: text) = String.utf8EncodeChar c ++ unescapedBytes text := by
  rw [unescapedBytes]
  intro high low rest sign
  exact absurd sign other

theorem unescapedBytes_of_escaped (escaped : Escaped plain cs text) (sign : ¬plain '%') :
    unescapedBytes text = bytesOf cs := by
  induction escaped with
  | nil => rfl
  | @plain c cs text itself _ ih =>
    have other : c ≠ '%' := by
      rintro rfl
      exact sign itself
    rw [unescapedBytes_of_ne other, ih]
    rfl
  | bytes spelled _ ih =>
    rw [unescapedBytes_of_escapedBytes spelled, ih]
    rfl

theorem ofBytes?_eq_some_iff {s : String} :
    ofBytes? bytes = some s ↔ s.toByteArray = bytes.toByteArray := by
  have same : (⟨bytes.toArray⟩ : ByteArray) = bytes.toByteArray :=
    ByteArray.ext List.data_toByteArray.symm
  rw [ofBytes?, same, fromUTF8?_eq_some_iff]

theorem toByteArray_eq (s : String) : s.toByteArray = (bytesOf s.toList).toByteArray := by
  calc
    _ = (String.ofList s.toList).toByteArray := by rw [String.ofList_toList]
    _ = (bytesOf s.toList).toByteArray := String.toByteArray_ofList

theorem ofBytes?_bytesOf (s : String) : ofBytes? (bytesOf s.toList) = some s :=
  ofBytes?_eq_some_iff.mpr (toByteArray_eq s)

/-- Every way to write a text stands for that text. -/
theorem unescaped_of_escaped {s : String} (escaped : Escaped plain s.toList text)
    (sign : ¬plain '%') : unescaped (String.ofList text) = s := by
  rw [unescaped, unescapedBy, unescaped?, String.toList_ofList,
    unescapedBytes_of_escaped escaped sign, ofBytes?_bytesOf, Option.getD_some]

theorem mem_of_escapedBytes (escaped : EscapedBytes bytes spelled) :
    ∀ c ∈ spelled, c = '%' ∨ (hexValue? c).isSome = true := by
  induction escaped with
  | nil => simp
  | cons high_value low_value _ ih =>
    rw [List.forall_mem_cons, List.forall_mem_cons, List.forall_mem_cons]
    exact ⟨.inl rfl, .inr (by rw [high_value]; rfl), .inr (by rw [low_value]; rfl), ih⟩

/-- Nothing but plain characters and escapes is written. -/
theorem mem_of_escaped (escaped : Escaped plain cs text) :
    ∀ c ∈ text, plain c ∨ c = '%' ∨ (hexValue? c).isSome = true := by
  induction escaped with
  | nil => simp
  | plain itself _ ih => exact List.forall_mem_cons.mpr ⟨.inl itself, ih⟩
  | bytes spelled _ ih =>
    intro c member
    obtain escape | rest := List.mem_append.mp member
    · exact .inr (mem_of_escapedBytes spelled c escape)
    · exact ih c rest

theorem toNat_of_mem_utf8EncodeChar {c : Char} {b : UInt8} (listed : b ∈ String.utf8EncodeChar c)
    (ascii : b.toNat < 128) : c.toNat = b.toNat := by
  have value : c.val.toNat = c.toNat := rfl
  unfold String.utf8EncodeChar at listed
  dsimp only at listed
  split_ifs at listed <;> simp only [List.mem_cons, List.not_mem_nil, or_false] at listed
  · subst listed
    rw [UInt8.toNat_ofNat']
    omega
  · obtain rfl | rfl := listed <;> rw [UInt8.toNat_ofNat'] at ascii <;> omega
  · obtain rfl | rfl | rfl := listed <;> rw [UInt8.toNat_ofNat'] at ascii <;> omega
  · obtain rfl | rfl | rfl | rfl := listed <;> rw [UInt8.toNat_ofNat'] at ascii <;> omega

theorem bytesOf_of_ofBytes? {s : String} (text : ofBytes? bytes = some s) :
    bytesOf s.toList = bytes := by
  rw [← List.toByteArray_inj, ← toByteArray_eq]
  exact ofBytes?_eq_some_iff.mp text

/-- What is no part of an escape keeps its bytes. -/
theorem mem_unescapedBytes {c : Char} (sign : c ≠ '%') (other : hexValue? c = none) {b : UInt8}
    (byte : b ∈ String.utf8EncodeChar c) (cs : List Char) (listed : c ∈ cs) :
    b ∈ unescapedBytes cs := by
  fun_induction unescapedBytes cs with
  | case1 high low rest escape found ih =>
    obtain ⟨high_value, low_value⟩ := escapedByte?_eq_some_iff.mp found
    simp only [List.mem_cons, sign, false_or] at listed
    obtain rfl | rfl | later := listed
    · rw [other] at high_value
      cases high_value
    · rw [other] at low_value
      cases low_value
    · exact List.mem_cons_of_mem _ (ih later)
  | case2 high low rest found ih =>
    obtain rfl | later := List.mem_cons.mp listed
    · exact absurd rfl sign
    · exact List.mem_append_right _ (ih later)
  | case3 d rest _ ih =>
    obtain rfl | later := List.mem_cons.mp listed
    · exact List.mem_append_left _ byte
    · exact List.mem_append_right _ (ih later)
  | case4 => cases listed

end Vouch.Text
