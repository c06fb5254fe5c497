import Mathlib.Tactic
import Vouch.Proofs.Text.Blank
import Vouch.Text.Search

/-!
Pieces that are joined, and lines that are ended, are found again.

The carriage return of a line break is a blank, so a line that is trimmed is the same whichever line
break ends it.
-/

namespace Vouch.Text

variable {line : List Char}

theorem pieces_eq_splitOn (separator : Char) (cs : List Char) :
    pieces separator cs = cs.splitOn separator := by
  induction cs with
  | nil => rfl
  | cons c rest ih =>
    rw [pieces, ih, List.splitOn, List.splitOn, List.splitOnP_cons_eq_if_modifyHead]
    split
    · rfl
    · have more := List.splitOnP_ne_nil (fun x => x == separator) rest
      cases cut : List.splitOnP (fun x => x == separator) rest with
      | nil => exact absurd cut more
      | cons first others => rfl

theorem pieces_intercalate {separator : Char} {fields : List (List Char)} (inhabited : fields ≠ [])
    (unbroken : ∀ field ∈ fields, separator ∉ field) :
    pieces separator ([separator].intercalate fields) = fields := by
  rw [pieces_eq_splitOn, List.splitOn_intercalate separator unbroken inhabited]

theorem pieces_of_not_mem {separator : Char} {cs : List Char} (unbroken : separator ∉ cs) :
    pieces separator cs = [cs] := by
  rw [pieces_eq_splitOn, List.splitOn_eq_singleton unbroken]

theorem exists_pieces_cons (separator : Char) (cs : List Char) :
    ∃ first others, pieces separator cs = first :: others := by
  rw [pieces_eq_splitOn]
  exact List.exists_cons_of_ne_nil (List.splitOnP_ne_nil _ _)

/-- A separator ends a piece. -/
theorem pieces_append_cons (separator : Char) (cs rest : List Char) :
    pieces separator (cs ++ separator :: rest) = pieces separator cs ++ pieces separator rest := by
  induction cs with
  | nil => simp [pieces]
  | cons c cs ih =>
    rw [List.cons_append, pieces, pieces, ih]
    split
    · rfl
    · obtain ⟨first, others, cut⟩ := exists_pieces_cons separator cs
      rw [cut]
      rfl

/-- What holds no separator belongs to the last piece. -/
theorem pieces_append {separator : Char} {tail : List Char} (unbroken : separator ∉ tail)
    {cs last : List Char} {init : List (List Char)}
    (cut : pieces separator cs = init ++ [last]) :
    pieces separator (cs ++ tail) = init ++ [last ++ tail] := by
  induction cs generalizing init last with
  | nil =>
    cases init with
    | nil =>
      obtain rfl := (List.cons.inj cut).1
      rw [List.nil_append, pieces_of_not_mem unbroken]
      rfl
    | cons piece init =>
      have none_left := (List.cons.inj cut).2
      simp at none_left
  | cons c cs ih =>
    obtain ⟨first, others, rest⟩ := exists_pieces_cons separator cs
    rw [pieces, rest] at cut
    rw [List.cons_append, pieces]
    split at cut
    next ends =>
      cases init with
      | nil => cases cut
      | cons piece init =>
        obtain ⟨rfl, later⟩ := List.cons.inj cut
        rw [if_pos ends, ih (rest.trans later), List.cons_append]
    next other =>
      rw [if_neg other]
      cases init with
      | nil =>
        obtain ⟨rfl, rfl⟩ := List.cons.inj cut
        have sole : pieces separator cs = [] ++ [first] := rest
        rw [ih sole]
        rfl
      | cons piece init =>
        obtain ⟨rfl, rfl⟩ := List.cons.inj cut
        have more : pieces separator cs = (first :: init) ++ [last] := rest
        rw [ih more]
        rfl

theorem exists_mem_pieces {separator c : Char} (other : c ≠ separator) {cs : List Char}
    (listed : c ∈ cs) : ∃ piece ∈ pieces separator cs, c ∈ piece := by
  induction cs with
  | nil => cases listed
  | cons d cs ih =>
    obtain ⟨first, others, rest⟩ := exists_pieces_cons separator cs
    rw [pieces, rest]
    split
    next ends =>
      obtain rfl | later := List.mem_cons.mp listed
      · exact absurd (beq_iff_eq.mp ends) other
      · obtain ⟨piece, member, found⟩ := ih later
        exact ⟨piece, List.mem_cons_of_mem _ (rest ▸ member), found⟩
    next =>
      obtain rfl | later := List.mem_cons.mp listed
      · exact ⟨c :: first, List.mem_cons_self, List.mem_cons_self⟩
      · obtain ⟨piece, member, found⟩ := ih later
        rw [rest] at member
        obtain rfl | member := List.mem_cons.mp member
        · exact ⟨d :: piece, List.mem_cons_self, List.mem_cons_of_mem _ found⟩
        · exact ⟨piece, List.mem_cons_of_mem _ member, found⟩

inductive Ended : List (List Char) → List Char → Prop
  | nil : Ended [] []
  | last {line : List Char} : '\n' ∉ line → line ≠ [] → Ended [line] line
  | feed {line text : List Char} {lines : List (List Char)} :
      '\n' ∉ line → Ended lines text → Ended (line :: lines) (line ++ '\n' :: text)
  | returnFeed {line text : List Char} {lines : List (List Char)} :
      '\n' ∉ line → Ended lines text → Ended (line :: lines) (line ++ '\r' :: '\n' :: text)

theorem lines_of_not_mem (unbroken : '\n' ∉ line) (inhabited : line ≠ []) :
    lines line = [line] := by
  rw [lines, pieces_of_not_mem unbroken]
  cases line with
  | nil => contradiction
  | cons c rest => rfl

theorem lines_append_cons (unbroken : '\n' ∉ line) (text : List Char) :
    lines (line ++ '\n' :: text) = withoutReturn line :: lines text := by
  have cut : pieces '\n' (line ++ '\n' :: text) = line :: pieces '\n' text := by
    have apart : ∀ c ∈ line, (c == '\n') = false := by
      intro c member
      exact beq_eq_false_iff_ne.mpr fun feed => unbroken (feed ▸ member)
    rw [pieces_eq_splitOn, pieces_eq_splitOn]
    exact List.splitOnP_append_cons_of_forall_mem apart '\n' (beq_self_eq_true _) text
  have more : pieces '\n' text ≠ [] := by
    rw [pieces_eq_splitOn]
    exact List.splitOnP_ne_nil _ _
  rw [lines, lines, cut, List.dropLast_cons_of_ne_nil more, List.getLast?_cons_of_ne_nil more]
  split <;> simp_all

theorem trimChars_append_blank {back : List Char} (blank : ∀ c ∈ back, isBlank c = true)
    (cs : List Char) : trimChars (cs ++ back) = trimChars cs := by
  rw [trimChars, trimChars, trimFront, trimFront, List.dropWhile_append]
  split
  case isTrue gone =>
    rw [List.isEmpty_iff.mp gone, List.dropWhile_eq_nil_iff.mpr blank]
  case isFalse => exact trimBack_append blank

theorem trimChars_withoutReturn (line : List Char) :
    trimChars (withoutReturn line) = trimChars line := by
  unfold withoutReturn
  split
  case h_1 ending =>
    have parts := List.dropLast_append_getLast? '\r' ending
    conv_rhs => rw [← parts]
    exact (trimChars_append_blank (List.all_eq_true.mp rfl) _).symm
  case h_2 => rfl

/-- Lines of any line breaks are found again, but for blanks around them. -/
theorem trimChars_lines {ls : List (List Char)} {text : List Char} (ended : Ended ls text) :
    (lines text).map trimChars = ls.map trimChars := by
  induction ended with
  | nil => rfl
  | last unbroken inhabited => rw [lines_of_not_mem unbroken inhabited]
  | feed unbroken _ ih =>
    rw [lines_append_cons unbroken, List.map_cons, List.map_cons, ih, trimChars_withoutReturn]
  | @returnFeed line text ls unbroken _ ih =>
    -- The line is cut behind the carriage return, which is then taken off.
    have unbroken' : '\n' ∉ line ++ ['\r'] := by
      simpa using unbroken
    have joined : line ++ '\r' :: '\n' :: text = (line ++ ['\r']) ++ '\n' :: text := by
      rw [List.append_assoc, List.singleton_append]
    rw [joined, lines_append_cons unbroken', List.map_cons, List.map_cons, ih,
      trimChars_withoutReturn, trimChars_append_blank (List.all_eq_true.mp rfl)]

/-- Only the blanks around a line are trimmed. -/
theorem trimChars_padded {front core back : List Char}
    (blank_front : ∀ c ∈ front, isBlank c = true) (blank_back : ∀ c ∈ back, isBlank c = true)
    (starts : trimFront core = core) (ends : trimBack core = core) :
    trimChars (front ++ core ++ back) = core := by
  rw [trimChars_append_blank blank_back, trimChars, trimFront_append blank_front, starts, ends]

theorem trimBack_intercalate {separator : Char} {last : List Char}
    (solid : isBlank separator = false) (whole : trimBack last = last) :
    ∀ fields : List (List Char), fields.getLast? = some last →
      trimBack ([separator].intercalate fields) = [separator].intercalate fields
  | [], none_last => by contradiction
  | [field], is_last => by
    rw [List.intercalate_singleton]
    rw [List.getLast?_singleton, Option.some.injEq] at is_last
    rw [is_last, whole]
  | first :: second :: more, is_last => by
    have ih := trimBack_intercalate solid whole (second :: more)
      (by rwa [List.getLast?_cons_cons] at is_last)
    rw [List.intercalate_cons_cons, List.append_assoc, List.singleton_append,
      trimBack_append_cons solid, ih]

end Vouch.Text
