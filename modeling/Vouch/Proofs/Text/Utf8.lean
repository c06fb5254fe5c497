import Mathlib.Tactic

/-!
Bytes that are UTF-8.

A character begins with a byte that stands nowhere else in a character.  So a whole character among
bytes leaves what is before it and what is after it to be judged apart.
-/

namespace Vouch.Text

theorem fromUTF8?_eq_some_iff {content : ByteArray} {text : String} :
    String.fromUTF8? content = some text ↔ text.toByteArray = content := by
  constructor
  · intro decoded
    unfold String.fromUTF8? at decoded
    split_ifs at decoded
    cases decoded
    rfl
  · rintro rfl
    exact dif_pos text.isValidUTF8

variable {before after : ByteArray} {c : Char}

theorem isValid_before_char {text : String}
    (parts : text.toByteArray = before ++ ([c].utf8Encode ++ after)) :
    String.Pos.Raw.IsValid text ⟨before.size⟩ := by
  have inhabited : 0 < [c].utf8Encode.size := by
    rw [List.utf8Encode_singleton, List.size_toByteArray, String.length_utf8EncodeChar]
    exact c.utf8Size_pos
  have inside : before.size < text.toByteArray.size := by
    rw [parts, ByteArray.size_append, ByteArray.size_append]
    omega
  have first : text.toByteArray[before.size].IsUTF8FirstByte := by
    simp only [parts]
    rw [ByteArray.getElem_append_right le_rfl, ByteArray.getElem_append_left (by omega)]
    exact List.isUTF8FirstByte_getElem_utf8Encode_singleton.mpr (Nat.sub_self _)
  exact String.Pos.Raw.isValid_iff_isUTF8FirstByte.mpr (.inr ⟨inside, first⟩)

theorem isValidUTF8_around_char_iff :
    (before ++ ([c].utf8Encode ++ after)).IsValidUTF8 ↔ before.IsValidUTF8 ∧ after.IsValidUTF8 := by
  constructor
  · intro valid
    let text : String := ⟨before ++ ([c].utf8Encode ++ after), valid⟩
    have boundary : String.Pos.Raw.IsValid text ⟨before.size⟩ := isValid_before_char rfl
    have front : text.toByteArray.extract 0 before.size = before :=
      ByteArray.extract_append_eq_left rfl
    have rest : text.toByteArray.extract before.size text.utf8ByteSize = [c].utf8Encode ++ after :=
      ByteArray.extract_append_eq_right rfl ByteArray.size_append
    constructor
    · exact front ▸ boundary.isValidUTF8_extract_zero
    · have follows := boundary.isValidUTF8_extract_utf8ByteSize
      rw [rest] at follows
      exact ByteArray.isValidUTF8_utf8Encode_singleton_append_iff.mp follows
  · rintro ⟨front, rest⟩
    exact front.append (ByteArray.isValidUTF8_utf8Encode_singleton_append_iff.mpr rest)

end Vouch.Text
