import Mathlib.Tactic
import Vouch.Url.Form
import Vouch.Proofs.Text.Line
import Vouch.Proofs.Text.Percent

/-!
What is sent in a form is received.

No character of a name or a text can end it, since the signs between the parts of a form are written
as escapes wherever they belong to a part.
-/

namespace Vouch.Url.Form

/-- A character that needs no escape, though a blank is written as a plus sign. -/
def isKept (c : Char) : Bool :=
  c == ' ' || isPlain c

theorem escaped_isKept (cs : List Char) :
    Text.Escaped (fun c => isKept c = true) cs (Text.percentEscaped isKept cs) :=
  Text.escaped_percentEscaped (fun _ kept => kept) cs

theorem decodeChars_encodeChars (s : String) : decodeChars (encodeChars s.toList) = s := by
  -- A plus sign of the text itself is escaped, so every one in the form is a blank.
  have blanks : (encodeChars s.toList).map (fun c => if c == '+' then ' ' else c) =
      Text.percentEscaped isKept s.toList := by
    unfold encodeChars
    rw [List.map_map]
    refine (List.map_congr_left fun c member => ?_).trans (List.map_id _)
    have other : c ≠ '+' := by
      rintro rfl
      have kind := Text.mem_of_escaped (escaped_isKept s.toList) '+' member
      revert kind
      decide
    by_cases blank : c = ' '
    · rw [blank]
      rfl
    · simp [blank, other]
  rw [decodeChars, blanks]
  exact Text.unescaped_of_escaped (escaped_isKept s.toList) (by decide)

theorem mem_encodeChars (cs : List Char) : ∀ c ∈ encodeChars cs,
    c = '+' ∨ isPlain c = true ∨ c = '%' ∨ (Text.hexValue? c).isSome = true := by
  intro c member
  obtain ⟨d, kept, rfl⟩ := List.mem_map.mp member
  by_cases blank : d = ' '
  · exact .inl (if_pos (beq_iff_eq.mpr blank))
  · rw [if_neg (by simpa using blank)]
    have kind := Text.mem_of_escaped (escaped_isKept cs) d kept
    simpa [isKept, blank] using Or.inr kind

/-- The signs between names, texts and pairs stand in none of these. -/
theorem not_mem_encodeChars (cs : List Char) : '=' ∉ encodeChars cs ∧ '&' ∉ encodeChars cs := by
  constructor
  · intro member
    have kind := mem_encodeChars cs '=' member
    revert kind
    decide
  · intro member
    have kind := mem_encodeChars cs '&' member
    revert kind
    decide

theorem pairOf_pairChars (pair : String × String) : pairOf (pairChars pair) = pair := by
  have apart : ∀ c ∈ encodeChars pair.1.toList, (c != '=') = true := by
    intro c member
    rw [bne_iff_ne]
    rintro rfl
    exact (not_mem_encodeChars _).1 member
  rw [pairOf, pairChars, List.takeWhile_append_of_pos apart, List.dropWhile_append_of_pos apart]
  simp [decodeChars_encodeChars]

theorem pairs_chars (written : List (String × String)) : pairs (chars written) = written := by
  cases written with
  | nil => rfl
  | cons first rest =>
    have unbroken : ∀ field ∈ (first :: rest).map pairChars, '&' ∉ field := by
      intro field listed
      obtain ⟨pair, -, rfl⟩ := List.mem_map.mp listed
      simp [pairChars, (not_mem_encodeChars _).2]
    have inhabited : ∀ field ∈ (first :: rest).map pairChars, (!field.isEmpty) = true := by
      intro field listed
      obtain ⟨pair, -, rfl⟩ := List.mem_map.mp listed
      simp [pairChars]
    rw [pairs, chars, Text.pieces_intercalate (by simp) unbroken,
      List.filter_eq_self.mpr inhabited, List.map_map]
    exact List.map_id'' pairOf_pairChars _

end Vouch.Url.Form
