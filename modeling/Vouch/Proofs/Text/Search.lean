import Mathlib.Tactic
import Vouch.Text.Ascii
import Vouch.Text.Search

/-!
A phrase in a text, whatever the letter case, and a phrase in texts that are joined.

Texts are joined in one line by a separator.  A phrase that holds no mark of the separator stands in
one of the texts then, and not across their borders.

Letters change their case within ASCII or outside it.  The few letters outside ASCII that have an ASCII
letter as their other case, as the long s and the Kelvin sign do, count as letters of their own.
-/

namespace Vouch.Text

def Utters (phrase : String) (text : List Char) : Prop :=
  ∃ part, part <:+: text ∧ lowerChars part = phrase.toList

/-- Both are the same letter up to its case, or both stand outside ASCII, where no phrase has a letter. -/
def SameLetter (c d : Char) : Prop :=
  c.toLower = d.toLower ∨ 128 ≤ c.toNat ∧ 128 ≤ d.toNat

def Recased (text other : List Char) : Prop :=
  List.Forall₂ SameLetter text other

variable {needle before after text : List Char} {phrase : String}

theorem occursIn_eq_true_iff : occursIn needle text = true ↔ needle <:+: text := by
  induction text with
  | nil => rw [occursIn, List.isEmpty_iff, List.infix_nil]
  | cons c rest ih =>
    rw [occursIn, Bool.or_eq_true, List.isPrefixOf_iff_prefix, ih, List.infix_cons_iff]

theorem infix_map_iff {f : Char → Char} :
    needle <:+: text.map f ↔ ∃ part, part <:+: text ∧ part.map f = needle := by
  constructor
  · rintro ⟨front, back, parts⟩
    obtain ⟨first, back', rfl, whole, -⟩ := List.map_eq_append_iff.mp parts.symm
    obtain ⟨front', part, rfl, -, rfl⟩ := List.map_eq_append_iff.mp whole
    exact ⟨part, ⟨front', back', rfl⟩, rfl⟩
  · rintro ⟨part, inside, rfl⟩
    exact inside.map f

theorem mentions_lower_eq_true_iff (text phrase : String) :
    mentions (lower text) phrase = true ↔ Utters phrase text.toList := by
  rw [mentions, occursIn_eq_true_iff, lower, String.toList_ofList, lowerChars, infix_map_iff]
  rfl

theorem SameLetter.symm {c d : Char} (same : SameLetter c d) : SameLetter d c :=
  same.imp Eq.symm And.symm

theorem Recased.symm {other : List Char} (recased : Recased text other) : Recased other text :=
  List.Forall₂.flip (recased.imp fun _ _ same => same.symm)

theorem toLower_of_not_ascii {c : Char} (far : 128 ≤ c.toNat) : c.toLower = c := by
  unfold Char.toLower
  rw [dif_neg]
  rintro ⟨low, high⟩
  have letter : 65 ≤ c.toNat ∧ c.toNat ≤ 90 := ⟨low, high⟩
  omega

theorem lowerChars_eq_of_recased {part other : List Char} (recased : Recased part other)
    (ascii : ∀ c ∈ lowerChars part, c.toNat < 128) : lowerChars part = lowerChars other := by
  induction recased with
  | nil => rfl
  | @cons c d part other same _ ih =>
    obtain ⟨first, later⟩ := List.forall_mem_cons.mp ascii
    obtain same | ⟨far, -⟩ := same
    · exact congrArg₂ List.cons same (ih later)
    · rw [toLower_of_not_ascii far] at first
      omega

/-- A phrase of ASCII characters is found in any letter case. -/
theorem Utters.of_recased (ascii : ∀ c ∈ phrase.toList, c.toNat < 128) {other : List Char}
    (recased : Recased text other) (uttered : Utters phrase text) : Utters phrase other := by
  obtain ⟨part, ⟨front, back, rfl⟩, spelled⟩ := uttered
  rw [List.append_assoc] at recased
  have behind : Recased (part ++ back) (other.drop front.length) := by
    have cut := List.forall₂_drop front.length recased
    rwa [List.drop_left] at cut
  have there : Recased part ((other.drop front.length).take part.length) := by
    have cut := List.forall₂_take part.length behind
    rwa [List.take_left] at cut
  have inside : (other.drop front.length).take part.length <:+: other :=
    (List.take_prefix _ _).isInfix.trans (List.drop_suffix _ _).isInfix
  have same := lowerChars_eq_of_recased there (spelled ▸ ascii)
  exact ⟨_, inside, same.symm.trans spelled⟩

theorem infix_append_cons_iff {mark : Char} (fresh : mark ∉ needle) :
    needle <:+: before ++ mark :: after ↔ needle <:+: before ∨ needle <:+: after := by
  constructor
  · rintro ⟨front, back, parts⟩
    rw [List.append_assoc] at parts
    obtain ⟨middle, rfl, rest⟩ | ⟨middle, rfl, rest⟩ := List.append_eq_append_iff.mp parts
    · obtain ⟨end', rfl, tail⟩ | ⟨end', rfl, tail⟩ := List.append_eq_append_iff.mp rest
      · exact .inl ⟨front, end', by rw [List.append_assoc]⟩
      · cases end' with
        | nil => exact .inl ⟨front, [], by simp⟩
        | cons c end' =>
          obtain ⟨rfl, -⟩ := List.cons.inj tail
          exact absurd (by simp) fresh
    · cases middle with
      | nil =>
        cases needle with
        | nil => exact .inl (List.nil_infix)
        | cons c needle =>
          obtain ⟨rfl, -⟩ := List.cons.inj rest
          exact absurd List.mem_cons_self fresh
      | cons c middle =>
        obtain ⟨rfl, tail⟩ := List.cons.inj rest
        exact .inr ⟨middle, back, (List.append_assoc ..).trans tail.symm⟩
  · rintro (inside | inside)
    · exact inside.trans (List.prefix_append _ _).isInfix
    · exact (inside.trans (List.suffix_cons mark after).isInfix).trans
        (List.suffix_append _ _).isInfix

/-- A phrase stands in joined texts if it stands in one of them. -/
theorem infix_intercalate_iff {mark blank : Char} {texts : List (List Char)}
    (inhabited : needle ≠ []) (fresh : mark ∉ needle) (solid : needle.head? ≠ some blank) :
    needle <:+: [mark, blank].intercalate texts ↔ ∃ text ∈ texts, needle <:+: text := by
  induction texts with
  | nil => simp [inhabited]
  | cons first rest ih =>
    cases rest with
    | nil => simp
    | cons second rest =>
      have joined : [mark, blank].intercalate (first :: second :: rest) =
          first ++ mark :: blank :: [mark, blank].intercalate (second :: rest) := by simp
      have behind : ¬needle <+: blank :: [mark, blank].intercalate (second :: rest) := by
        intro leading
        obtain rfl | ⟨tail, rfl, -⟩ := List.prefix_cons_iff.mp leading
        · exact inhabited rfl
        · exact solid rfl
      rw [joined, infix_append_cons_iff fresh, List.infix_cons_iff, or_iff_right behind, ih]
      exact (List.exists_mem_cons_iff ..).symm

end Vouch.Text
