import Mathlib.Tactic
import Vouch.Json.Node

/-!
The written forms of a JSON value, as a grammar.

Blanks may stand between all parts of a text, and a character of a string may be written in several
ways.  Whole numbers have one form only.  The two forms in which values are printed, in one line and
over several lines, are among the written forms.
-/

namespace Vouch.Json

def Blank (cs : List Char) : Prop :=
  ∀ c ∈ cs, Cursor.isSpace c = true

theorem blank_nil : Blank [] := by
  intro c member
  cases member

/-! ### Strings -/

def unit? (digits : List Char) : Option Nat :=
  if digits.length = 4 then
    (digits.mapM Text.hexValue?).map fun values => values.foldl (fun n d => 16 * n + d) 0
  else none

inductive Spelling : Char → List Char → Prop where
  | plain {c : Char} (printable : 32 ≤ c.toNat) (unquoted : c ≠ '"') (unescaped : c ≠ '\\') :
    Spelling c [c]
  | short {c letter : Char} (named : shortEscape? c = some letter) : Spelling c ['\\', letter]
  | slash : Spelling '/' ['\\', '/']
  | unit {c : Char} {digits : List Char} (number : unit? digits = some c.toNat) :
    Spelling c ('\\' :: 'u' :: digits)
  | pair {high low : Nat} {highDigits lowDigits : List Char}
    (highNumber : unit? highDigits = some high) (isHigh : 0xD800 ≤ high ∧ high ≤ 0xDBFF)
    (lowNumber : unit? lowDigits = some low) (isLow : 0xDC00 ≤ low ∧ low ≤ 0xDFFF) :
    Spelling (paired high low) ('\\' :: 'u' :: highDigits ++ '\\' :: 'u' :: lowDigits)

inductive Body : List Char → List Char → Prop where
  | nil : Body [] []
  | cons {c : Char} {cs spelled rest : List Char} (first : Spelling c spelled)
    (others : Body cs rest) : Body (c :: cs) (spelled ++ rest)

theorem unit?_of_control :
    ∀ n < 32, unit? ['0', '0', Nat.digitChar (n / 16), Nat.digitChar (n % 16)] = some n := by
  decide

theorem spelling_escaped (c : Char) : Spelling c (escaped c) := by
  unfold escaped
  cases named : shortEscape? c with
  | some letter => exact .short named
  | none =>
    by_cases control : c.toNat < 32
    · rw [if_pos control]
      exact .unit (unit?_of_control c.toNat control)
    · rw [if_neg control]
      refine .plain (not_lt.mp control) ?_ ?_
      · rintro rfl
        cases named
      · rintro rfl
        cases named

theorem body_escaped (cs : List Char) : Body cs (cs.flatMap escaped) := by
  induction cs with
  | nil => exact .nil
  | cons c rest ih => exact .cons (spelling_escaped c) ih

/-! ### Values -/

inductive Lead : Bool → List Char → Prop where
  | first {blanks : List Char} (blank : Blank blanks) : Lead true blanks
  | next {before after : List Char} (blankBefore : Blank before) (blankAfter : Blank after) :
    Lead false (before ++ ',' :: after)

inductive Label : String → List Char → Prop where
  | mk {name : String} {body before after : List Char} (spelled : Body name.toList body)
    (blankBefore : Blank before) (blankAfter : Blank after) :
    Label name ('"' :: body ++ '"' :: before ++ ':' :: after)

mutual

inductive Form : Value → List Char → Prop where
  | null : Form .null ['n', 'u', 'l', 'l']
  | true : Form (.bool true) ['t', 'r', 'u', 'e']
  | false : Form (.bool false) ['f', 'a', 'l', 's', 'e']
  | int (n : Int) : Form (.int n) (Decimal.chars n)
  | text {s : String} {body : List Char} (spelled : Body s.toList body) :
    Form (.text s) ('"' :: body ++ ['"'])
  | list {items : List Value} {text : List Char} (inner : Items true items text) :
    Form (.list items) ('[' :: text)
  | object {members : List (String × Value)} {text : List Char}
    (inner : Members true members text) : Form (.object members) ('{' :: text)

inductive Items : Bool → List Value → List Char → Prop where
  | close {first : Bool} {blanks : List Char} (blank : Blank blanks) :
    Items first [] (blanks ++ [']'])
  | item {first : Bool} {lead text more : List Char} {item : Value} {items : List Value}
    (leads : Lead first lead) (form : Form item text) (others : Items false items more) :
    Items first (item :: items) (lead ++ text ++ more)

inductive Members : Bool → List (String × Value) → List Char → Prop where
  | close {first : Bool} {blanks : List Char} (blank : Blank blanks) :
    Members first [] (blanks ++ ['}'])
  | member {first : Bool} {lead label text more : List Char} {name : String} {value : Value}
    {members : List (String × Value)} (leads : Lead first lead) (labels : Label name label)
    (form : Form value text) (others : Members false members more) :
    Members first ((name, value) :: members) (lead ++ label ++ text ++ more)

end

inductive DocumentText : Value → List Char → Prop where
  | mk {value : Value} {before text after : List Char} (blankBefore : Blank before)
    (form : Form value text) (blankAfter : Blank after) :
    DocumentText value (before ++ text ++ after)

/-! ### The printed forms -/

theorem label_of_stringChars (name : String) {after : List Char} (blank : Blank after) :
    Label name (stringChars name ++ ':' :: after) := by
  have label : Label name ('"' :: name.toList.flatMap escaped ++ '"' :: [] ++ ':' :: after) :=
    .mk (body_escaped name.toList) blank_nil blank
  rw [stringChars]
  simpa using label

theorem blank_lineBreak (level : Nat) : Blank (Value.lineBreak level) := by
  intro c member
  obtain rfl | spaces := List.mem_cons.mp member
  · rfl
  · rw [List.eq_of_mem_replicate spaces]
    rfl

def MemberForm (member : String × Value) (part : List Char) : Prop :=
  ∃ label text, Label member.1 label ∧ Form member.2 text ∧ part = label ++ text

structure Layout (lead after trail : List Char) : Prop where
  lead : Blank lead
  after : Blank after
  trail : Blank trail

theorem layout_line : Layout [] [] [] :=
  ⟨blank_nil, blank_nil, blank_nil⟩

theorem layout_lineBreak (level : Nat) :
    Layout (Value.lineBreak (level + 1)) (Value.lineBreak (level + 1)) (Value.lineBreak level) :=
  ⟨blank_lineBreak _, blank_lineBreak _, blank_lineBreak _⟩

section
variable {lead after trail : List Char} (layout : Layout lead after trail)
include layout

theorem items_joined {items : List Value} {parts : List (List Char)}
    (forms : List.Forall₂ Form items parts) (inhabited : parts ≠ []) {first : Bool}
    {start : List Char} (leads : Lead first start) :
    Items first items (start ++ joined (',' :: after) parts ++ trail ++ [']']) := by
  induction forms generalizing first start with
  | nil => exact absurd rfl inhabited
  | @cons item part items parts form forms ih =>
    cases forms with
    | nil =>
      have close : Items false [] (trail ++ [']']) := .close layout.trail
      have written := Items.item leads form close
      simpa [joined] using written
    | cons next others =>
      have leads' : Lead false (',' :: after) := .next blank_nil layout.after
      have more := ih (List.cons_ne_nil _ _) leads'
      have written := Items.item leads form more
      simpa [joined] using written

theorem members_joined {members : List (String × Value)} {parts : List (List Char)}
    (forms : List.Forall₂ MemberForm members parts) (inhabited : parts ≠ [])
    {first : Bool} {start : List Char} (leads : Lead first start) :
    Members first members (start ++ joined (',' :: after) parts ++ trail ++ ['}']) := by
  induction forms generalizing first start with
  | nil => exact absurd rfl inhabited
  | @cons member part members parts form forms ih =>
    obtain ⟨name, value⟩ := member
    obtain ⟨label, text, labels, form, rfl⟩ := form
    cases forms with
    | nil =>
      have close : Members false [] (trail ++ ['}']) := .close layout.trail
      have written := Members.member leads labels form close
      simpa [joined] using written
    | cons next others =>
      have leads' : Lead false (',' :: after) := .next blank_nil layout.after
      have more := ih (List.cons_ne_nil _ _) leads'
      have written := Members.member leads labels form more
      simpa [joined] using written

end

theorem form_list_line {items : List Value} {parts : List (List Char)}
    (forms : List.Forall₂ Form items parts) :
    Form (.list items) ('[' :: joined [','] parts ++ [']']) := by
  cases forms with
  | nil => exact .list (.close blank_nil)
  | cons first others =>
    have inner := items_joined layout_line (.cons first others) (List.cons_ne_nil _ _)
      (.first blank_nil)
    simpa using Form.list inner

theorem form_object_line {members : List (String × Value)} {parts : List (List Char)}
    (forms : List.Forall₂ MemberForm members parts) :
    Form (.object members) ('{' :: joined [','] parts ++ ['}']) := by
  cases forms with
  | nil => exact .object (.close blank_nil)
  | cons first others =>
    have inner := members_joined layout_line (.cons first others) (List.cons_ne_nil _ _)
      (.first blank_nil)
    simpa using Form.object inner

theorem form_list_bracketed {items : List Value} {parts : List (List Char)} (level : Nat)
    (forms : List.Forall₂ Form items parts) :
    Form (.list items) (Value.bracketed '[' ']' level parts) := by
  cases forms with
  | nil => exact .list (.close blank_nil)
  | cons first others =>
    have inner := items_joined (layout_lineBreak level) (.cons first others)
      (List.cons_ne_nil _ _) (.first (blank_lineBreak (level + 1)))
    simpa [Value.bracketed] using Form.list inner

theorem form_object_bracketed {members : List (String × Value)} {parts : List (List Char)}
    (level : Nat) (forms : List.Forall₂ MemberForm members parts) :
    Form (.object members) (Value.bracketed '{' '}' level parts) := by
  cases forms with
  | nil => exact .object (.close blank_nil)
  | cons first others =>
    have inner := members_joined (layout_lineBreak level) (.cons first others)
      (List.cons_ne_nil _ _) (.first (blank_lineBreak (level + 1)))
    simpa [Value.bracketed] using Form.object inner

theorem form_text (s : String) : Form (.text s) (stringChars s) :=
  .text (body_escaped s.toList)

mutual

theorem form_chars : (value : Value) → Form value value.chars
  | .null => .null
  | .bool true => .true
  | .bool false => .false
  | .int n => .int n
  | .text s => form_text s
  | .list items => form_list_line (forms_itemChars items)
  | .object members => form_object_line (forms_memberChars members)

theorem forms_itemChars : (items : List Value) →
    List.Forall₂ Form items (Value.itemChars items)
  | [] => .nil
  | item :: rest => .cons (form_chars item) (forms_itemChars rest)

theorem forms_memberChars : (members : List (String × Value)) →
    List.Forall₂ MemberForm members (Value.memberChars members)
  | [] => .nil
  | (name, value) :: rest =>
    .cons
      ⟨_, _, label_of_stringChars name blank_nil, form_chars value, by simp⟩
      (forms_memberChars rest)

end

theorem blank_space : Blank [' '] := by
  intro c member
  rw [List.mem_singleton.mp member]
  rfl

mutual

/-- A value over several lines is a written form of it. -/
theorem form_prettyChars (level : Nat) : (value : Value) → Form value (value.prettyChars level)
  | .null => .null
  | .bool true => .true
  | .bool false => .false
  | .int n => .int n
  | .text s => form_text s
  | .list items => form_list_bracketed level (forms_prettyItems (level + 1) items)
  | .object members => form_object_bracketed level (forms_prettyMembers (level + 1) members)

theorem forms_prettyItems (level : Nat) : (items : List Value) →
    List.Forall₂ Form items (Value.prettyItems level items)
  | [] => .nil
  | item :: rest => .cons (form_prettyChars level item) (forms_prettyItems level rest)

theorem forms_prettyMembers (level : Nat) : (members : List (String × Value)) →
    List.Forall₂ MemberForm members (Value.prettyMembers level members)
  | [] => .nil
  | (name, value) :: rest =>
    .cons
      ⟨_, _, label_of_stringChars name blank_space, form_prettyChars level value, by simp⟩
      (forms_prettyMembers level rest)

end

theorem documentText_of_form {value : Value} {text : List Char} (form : Form value text) :
    DocumentText value text := by
  have written := DocumentText.mk blank_nil form blank_nil
  simpa using written

theorem documentText_line (value : Value) : DocumentText value value.line.toList := by
  rw [Value.line, String.toList_ofList]
  exact documentText_of_form (form_chars value)

theorem documentText_pretty (value : Value) : DocumentText value value.pretty.toList := by
  rw [Value.pretty, String.toList_ofList]
  exact documentText_of_form (form_prettyChars 0 value)

end Vouch.Json
