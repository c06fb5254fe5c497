import Mathlib.Tactic
import Mathlib.Data.List.TakeWhile
import Vouch.Proofs.Json.Scan

/-!
Every written form of a value is read as that value.

The tree of a text holds the value that the text was written for, and nothing is wrong with it, as long
as numbers have at most 64 bits and the nesting stays within the levels that are read.  Two steps for
each character are enough.
-/

namespace Vouch.Json

inductive Value.Within : Nat → Value → Prop where
  | null {levels : Nat} : Within levels .null
  | bool {levels : Nat} (b : Bool) : Within levels (.bool b)
  | int {levels : Nat} {n : Int} (least : Decimal.minI64 ≤ n) (greatest : n ≤ Decimal.maxU64) :
    Within levels (.int n)
  | text {levels : Nat} (s : String) : Within levels (.text s)
  | list {levels : Nat} {items : List Value} (inner : ∀ item ∈ items, Within levels item) :
    Within (levels + 1) (.list items)
  | object {levels : Nat} {members : List (String × Value)}
    (inner : ∀ member ∈ members, Within levels member.2) : Within (levels + 1) (.object members)

namespace Cursor

theorem skip_of_blank {blanks : List Char} (blank : Blank blanks) {c : Char} {rest : List Char}
    (solid : isSpace c = false) (offset : Nat) :
    skip ⟨offset, blanks ++ c :: rest⟩ = ⟨offset + blanks.length, c :: rest⟩ := by
  unfold skip
  dsimp only
  rw [List.takeWhile_append_of_pos blank, List.dropWhile_append_of_pos blank,
    List.takeWhile_cons_of_neg (by simp [solid]), List.dropWhile_cons_of_neg (by simp [solid]),
    List.append_nil]

theorem skip_of_blank_only {blanks : List Char} (blank : Blank blanks) (offset : Nat) :
    skip ⟨offset, blanks⟩ = ⟨offset + blanks.length, []⟩ := by
  have all : blanks.takeWhile isSpace = blanks := List.takeWhile_eq_self_iff.mpr blank
  unfold skip
  dsimp only
  rw [all, List.dropWhile_eq_nil_iff.mpr blank]

theorem skip_skip (cursor : Cursor) : cursor.skip.skip = cursor.skip := by
  unfold skip
  dsimp only
  cases remaining : cursor.rest.dropWhile isSpace with
  | nil => rfl
  | cons c rest =>
    have solid := List.head?_dropWhile_not isSpace cursor.rest
    rw [remaining, List.head?_cons] at solid
    rw [List.takeWhile_cons_of_neg (by simpa using solid),
      List.dropWhile_cons_of_neg (by simpa using solid)]
    rfl

end Cursor

def Opens (c : Char) : Prop :=
  c ∈ ['n', 't', 'f', '"', '[', '{', '-'] ∨ c.isDigit = true

theorem Opens.solid {c : Char} (opens : Opens c) : Cursor.isSpace c = false := by
  obtain listed | digit := opens
  · simp only [List.mem_cons, List.not_mem_nil, or_false] at listed
    rcases listed with rfl | rfl | rfl | rfl | rfl | rfl | rfl <;> rfl
  · simp only [Cursor.isSpace, Bool.or_eq_false_iff, beq_eq_false_iff_ne, and_assoc]
    refine ⟨?_, ?_, ?_, ?_⟩ <;>
    · rintro rfl
      cases digit

theorem Opens.ne {c other : Char} (opens : Opens c)
    (closes : other ∉ ['n', 't', 'f', '"', '[', '{', '-'] ∧ other.isDigit = false) : c ≠ other := by
  rintro rfl
  obtain listed | digit := opens
  · exact closes.1 listed
  · rw [closes.2] at digit
    cases digit

theorem Cursor.skip_of_opens {c : Char} (opens : Opens c) (offset : Nat) (rest : List Char) :
    Cursor.skip ⟨offset, c :: rest⟩ = ⟨offset, c :: rest⟩ :=
  Cursor.skip_of_blank blank_nil opens.solid offset

theorem Form.opens {value : Value} {text : List Char} (form : Form value text) :
    ∃ c rest, text = c :: rest ∧ Opens c := by
  cases form with
  | null => exact ⟨_, _, rfl, .inl (by decide)⟩
  | true => exact ⟨_, _, rfl, .inl (by decide)⟩
  | false => exact ⟨_, _, rfl, .inl (by decide)⟩
  | text => exact ⟨_, _, rfl, .inl (by decide)⟩
  | list => exact ⟨_, _, rfl, .inl (by decide)⟩
  | object => exact ⟨_, _, rfl, .inl (by decide)⟩
  | int n =>
    cases n with
    | negSucc n => exact ⟨_, _, rfl, .inl (by decide)⟩
    | ofNat n =>
      obtain ⟨d, ds, written, digit⟩ := Decimal.exists_digits_cons n
      exact ⟨d, ds, written, .inr digit⟩

theorem ends_nil : Ends [] := by
  intro c first
  cases first

theorem ends_of_space {c : Char} (space : Cursor.isSpace c = true) (rest : List Char) :
    Ends (c :: rest) := by
  intro d first
  cases first
  simp only [Cursor.isSpace, Bool.or_eq_true, beq_iff_eq] at space
  obtain ((rfl | rfl) | rfl) | rfl := space <;> decide

theorem ends_blank_append {blanks : List Char} (blank : Blank blanks) {rest : List Char}
    (ends : Ends rest) : Ends (blanks ++ rest) := by
  cases blanks with
  | nil => exact ends
  | cons c more => exact ends_of_space (blank c List.mem_cons_self) _

theorem ends_of_lead {lead : List Char} (leads : Lead false lead) (rest : List Char) :
    Ends (lead ++ rest) := by
  cases leads with
  | @next before after blankBefore _ =>
    rw [List.append_assoc]
    refine ends_blank_append blankBefore ?_
    intro c first
    cases first
    decide

theorem Items.ends {items : List Value} {text : List Char} (inner : Items false items text)
    (rest : List Char) : Ends (text ++ rest) := by
  cases inner with
  | close blank =>
    rw [List.append_assoc]
    refine ends_blank_append blank ?_
    intro c first
    cases first
    decide
  | item leads =>
    rw [List.append_assoc, List.append_assoc]
    exact ends_of_lead leads _

theorem Members.ends {members : List (String × Value)} {text : List Char}
    (inner : Members false members text) (rest : List Char) : Ends (text ++ rest) := by
  cases inner with
  | close blank =>
    rw [List.append_assoc]
    refine ends_blank_append blank ?_
    intro c first
    cases first
    decide
  | member leads =>
    rw [List.append_assoc, List.append_assoc, List.append_assoc]
    exact ends_of_lead leads _

namespace Node

/-- The text is read as the value, whatever follows that no number goes on with. -/
def Reads (levels : Nat) (value : Value) (text : List Char) : Prop :=
  ∀ steps offset (blanks rest : List Char), Blank blanks → Ends rest →
    2 * (blanks ++ text ++ rest).length + 1 ≤ steps →
    ∃ node stop, read steps levels ⟨offset, blanks ++ text ++ rest⟩ = (node, some ⟨stop, rest⟩) ∧
      node.value? = some value

def ReadsItems (levels : Nat) (first : Bool) (values : List Value) (text : List Char) : Prop :=
  ∀ steps offset rest, 2 * (text ++ rest).length + 2 ≤ steps →
    ∃ items stop, readItems steps levels first ⟨offset, text ++ rest⟩ =
        (items, .closed stop, some ⟨stop, rest⟩) ∧
      itemValues? items = some values

def ReadsMembers (levels : Nat) (first : Bool) (values : List (String × Value))
    (text : List Char) : Prop :=
  ∀ steps offset rest, 2 * (text ++ rest).length + 2 ≤ steps →
    ∃ members stop, readMembers steps levels first ⟨offset, text ++ rest⟩ =
        (members, .closed stop, some ⟨stop, rest⟩) ∧
      memberValues? members = some values

/-- Blanks before a value are skipped, so that it is enough to read it from its first character on. -/
theorem reads_of_opens {levels : Nat} {value : Value} {text : List Char} {c : Char}
    {more : List Char} (starts : text = c :: more) (opens : Opens c)
    (reads : ∀ steps offset rest, Ends rest → 2 * (text ++ rest).length ≤ steps →
      ∃ node stop, read (steps + 1) levels ⟨offset, text ++ rest⟩ = (node, some ⟨stop, rest⟩) ∧
        node.value? = some value) :
    Reads levels value text := by
  intro steps offset blanks rest blank ends enough
  cases steps with
  | zero => omega
  | succ steps =>
    -- Reading from the first blank and from the first character differ in nothing but the offset.
    have fewer : 2 * (text ++ rest).length ≤ steps := by
      simp only [List.length_append] at enough ⊢
      omega
    obtain ⟨node, stop, found, holds⟩ := reads steps (offset + blanks.length) rest ends fewer
    refine ⟨node, stop, ?_, holds⟩
    have here : Cursor.skip ⟨offset, blanks ++ c :: (more ++ rest)⟩ =
        ⟨offset + blanks.length, c :: (more ++ rest)⟩ :=
      Cursor.skip_of_blank blank opens.solid offset
    have there := Cursor.skip_of_opens opens (offset + blanks.length) (more ++ rest)
    rw [starts, List.cons_append] at found
    rw [List.append_assoc, starts, List.cons_append]
    rw [read] at found ⊢
    rw [there] at found
    rw [here]
    exact found

section
variable {levels : Nat}

theorem reads_null : Reads levels .null ['n', 'u', 'l', 'l'] := by
  refine reads_of_opens rfl (.inl (by decide)) ?_
  intro steps offset rest _ _
  exact ⟨.null ⟨offset, offset + 4⟩, offset + 4, by rw [read]; rfl, rfl⟩

theorem reads_true : Reads levels (.bool true) ['t', 'r', 'u', 'e'] := by
  refine reads_of_opens rfl (.inl (by decide)) ?_
  intro steps offset rest _ _
  exact ⟨.bool true ⟨offset, offset + 4⟩, offset + 4, by rw [read]; rfl, rfl⟩

theorem reads_false : Reads levels (.bool false) ['f', 'a', 'l', 's', 'e'] := by
  refine reads_of_opens rfl (.inl (by decide)) ?_
  intro steps offset rest _ _
  exact ⟨.bool false ⟨offset, offset + 5⟩, offset + 5, by rw [read]; rfl, rfl⟩

theorem reads_text {s : String} {body : List Char} (spelled : Body s.toList body) :
    Reads levels (.text s) ('"' :: body ++ ['"']) := by
  refine reads_of_opens rfl (.inl (by decide)) ?_
  intro steps offset rest _ _
  obtain ⟨stop, scanned⟩ := scanString_of_body spelled (offset + 1) rest
  refine ⟨.text s ⟨offset, stop⟩, stop, ?_, rfl⟩
  simp only [List.cons_append, List.append_assoc, List.nil_append]
  rw [read, Cursor.skip_of_opens (.inl (by decide))]
  exact congrArg (ofScan offset .quote .text) scanned

theorem reads_int {n : Int} (least : Decimal.minI64 ≤ n) (greatest : n ≤ Decimal.maxU64) :
    Reads levels (.int n) (Decimal.chars n) := by
  obtain ⟨c, more, starts, opens⟩ := (Form.int n).opens
  refine reads_of_opens starts opens ?_
  intro steps offset rest ends _
  obtain ⟨stop, scanned⟩ := scanNumber_of_chars least greatest ends offset
  refine ⟨.number (.whole n) ⟨offset, stop⟩, stop, ?_, rfl⟩
  have numeric : c = '-' ∨ c.isDigit = true := by
    cases n with
    | negSucc n =>
      cases starts
      exact .inl rfl
    | ofNat n =>
      have written : Decimal.digits n = c :: more := starts
      exact .inr (Decimal.isDigit_of_mem_digits (n := n) c (written ▸ List.mem_cons_self))
  have other : ∀ d, d ≠ '-' → d.isDigit = false → c ≠ d := by
    rintro d unsigned letter rfl
    obtain rfl | digit := numeric
    · exact unsigned rfl
    · rw [letter] at digit
      cases digit
  rw [starts, List.cons_append] at scanned ⊢
  rw [read, Cursor.skip_of_opens opens]
  dsimp only
  split
  case h_8 c' rest' starts' =>
    cases starts'
    have begins : (c == '-' || c.isDigit) = true := by
      obtain rfl | digit := numeric
      · rfl
      · rw [digit, Bool.or_true]
    rw [if_pos begins, scanned, ofScan]
  all_goals
    rename_i starts'
    cases starts'
  all_goals exact absurd rfl (other _ (by decide) (by decide))

theorem reads_list {items : List Value} {text : List Char}
    (inner : ReadsItems levels true items text) :
    Reads (levels + 1) (.list items) ('[' :: text) := by
  refine reads_of_opens rfl (.inl (by decide)) ?_
  intro steps offset rest _ enough
  have fewer : 2 * (text ++ rest).length + 2 ≤ steps := by
    simp only [List.cons_append, List.length_cons] at enough
    omega
  obtain ⟨nodes, stop, read_inner, holds⟩ := inner steps (offset + 1) rest fewer
  refine ⟨.list offset false nodes (.closed stop), stop, ?_, ?_⟩
  · have step : read (steps + 1) (levels + 1) ⟨offset, '[' :: text ++ rest⟩ =
        let inside := readItems steps levels true ⟨offset + 1, text ++ rest⟩
        (.list offset false inside.1 inside.2.1, inside.2.2) := by
      rw [List.cons_append, read, Cursor.skip_of_opens (.inl (by decide))]
      rfl
    rw [step, read_inner]
  · rw [value?, holds]
    rfl

theorem reads_object {members : List (String × Value)} {text : List Char}
    (inner : ReadsMembers levels true members text) :
    Reads (levels + 1) (.object members) ('{' :: text) := by
  refine reads_of_opens rfl (.inl (by decide)) ?_
  intro steps offset rest _ enough
  have fewer : 2 * (text ++ rest).length + 2 ≤ steps := by
    simp only [List.cons_append, List.length_cons] at enough
    omega
  obtain ⟨nodes, stop, read_inner, holds⟩ := inner steps (offset + 1) rest fewer
  refine ⟨.object offset false nodes (.closed stop), stop, ?_, ?_⟩
  · have step : read (steps + 1) (levels + 1) ⟨offset, '{' :: text ++ rest⟩ =
        let inside := readMembers steps levels true ⟨offset + 1, text ++ rest⟩
        (.object offset false inside.1 inside.2.1, inside.2.2) := by
      rw [List.cons_append, read, Cursor.skip_of_opens (.inl (by decide))]
      rfl
    rw [step, read_inner]
  · rw [value?, holds]
    rfl

theorem readsItems_close {first : Bool} {blanks : List Char} (blank : Blank blanks) :
    ReadsItems levels first [] (blanks ++ [']']) := by
  intro steps offset rest enough
  cases steps with
  | zero => omega
  | succ steps =>
    refine ⟨[], offset + blanks.length + 1, ?_, rfl⟩
    rw [List.append_assoc, List.singleton_append, readItems,
      Cursor.skip_of_blank blank (by decide)]
    rfl

theorem readsItems_item {first : Bool} {lead text more : List Char} {item : Value}
    {items : List Value} (leads : Lead first lead) (form : Form item text)
    (here : Reads levels item text) (others : Items false items more)
    (later : ReadsItems levels false items more) :
    ReadsItems levels first (item :: items) (lead ++ text ++ more) := by
  intro steps offset rest enough
  obtain ⟨c, tail, starts, opens⟩ := form.opens
  have open_bracket : c ≠ ']' := opens.ne (by decide)
  cases steps with
  | zero => omega
  | succ steps =>
    have size : 1 ≤ text.length := by
      rw [starts, List.length_cons]
      omega
    have fewer : 2 * (more ++ rest).length + 2 ≤ steps ∧
        2 * (text ++ (more ++ rest)).length + 1 ≤ steps := by
      simp only [List.length_append] at enough ⊢
      omega
    -- Wherever the item starts, it is read from there and the rest of the list after it.
    have onward : ∀ start, ∃ node stop nodes last,
        read steps levels ⟨start, text ++ (more ++ rest)⟩ = (node, some ⟨stop, more ++ rest⟩) ∧
        readItems steps levels false ⟨stop, more ++ rest⟩ =
          (nodes, .closed last, some ⟨last, rest⟩) ∧
        itemValues? (node :: nodes) = some (item :: items) := by
      intro start
      obtain ⟨node, stop, read_item, holds⟩ :=
        here steps start [] (more ++ rest) blank_nil (others.ends rest) fewer.2
      obtain ⟨nodes, last, read_rest, hold⟩ := later steps stop rest fewer.1
      refine ⟨node, stop, nodes, last, read_item, read_rest, ?_⟩
      rw [itemValues?, holds, hold]
      rfl
    simp only [List.append_assoc]
    rw [readItems]
    rw [starts, List.cons_append] at onward ⊢
    cases leads with
    | first blank =>
      obtain ⟨node, stop, nodes, last, read_item, read_rest, hold⟩ := onward (offset + lead.length)
      refine ⟨node :: nodes, last, ?_, hold⟩
      rw [Cursor.skip_of_blank blank opens.solid]
      simp [read_item, read_rest]
    | @next before after blankBefore blankAfter =>
      obtain ⟨node, stop, nodes, last, read_item, read_rest, hold⟩ :=
        onward (offset + before.length + 1 + after.length)
      refine ⟨node :: nodes, last, ?_, hold⟩
      rw [List.append_assoc, List.cons_append, Cursor.skip_of_blank blankBefore (by decide)]
      simp [Cursor.skip_of_blank blankAfter opens.solid, open_bracket, read_item, read_rest]

theorem readsMembers_close {first : Bool} {blanks : List Char} (blank : Blank blanks) :
    ReadsMembers levels first [] (blanks ++ ['}']) := by
  intro steps offset rest enough
  cases steps with
  | zero => omega
  | succ steps =>
    refine ⟨[], offset + blanks.length + 1, ?_, rfl⟩
    rw [List.append_assoc, List.singleton_append, readMembers,
      Cursor.skip_of_blank blank (by decide)]
    rfl

/-- The blanks after a value are skipped both after it and before what follows. -/
theorem readMembers_skip (steps : Nat) (first : Bool) (cursor : Cursor) :
    readMembers (steps + 1) levels first cursor.skip =
      readMembers (steps + 1) levels first cursor := by
  rw [readMembers, readMembers, Cursor.skip_skip]

theorem readMember_value (key : Key) {before after text more : List Char} {value : Value}
    {members : List (String × Value)} (named : key.fault = none) (blankBefore : Blank before)
    (blankAfter : Blank after) (here : Reads levels value text)
    (others : Members false members more) (later : ReadsMembers levels false members more)
    (steps offset : Nat) (rest : List Char)
    (enough : 2 * (after ++ text ++ (more ++ rest)).length + 3 ≤ steps) :
    ∃ nodes stop, readMember steps levels key
        ⟨offset, before ++ ':' :: (after ++ text ++ (more ++ rest))⟩ =
        (nodes, .closed stop, some ⟨stop, rest⟩) ∧
      memberValues? nodes = some ((key.name, value) :: members) := by
  -- A member takes two steps, one for its name and one from the colon on.
  obtain ⟨steps, rfl⟩ : ∃ fewer, steps = fewer + 2 := ⟨steps - 2, by omega⟩
  have fewer : 2 * (more ++ rest).length + 2 ≤ steps + 1 := by
    simp only [List.length_append] at enough ⊢
    omega
  obtain ⟨node, stop, read_value, holds⟩ :=
    here (steps + 1) (offset + before.length + 1) after (more ++ rest) blankAfter
      (others.ends rest) (by omega)
  obtain ⟨nodes, last, read_rest, hold⟩ := later (steps + 1) stop rest fewer
  rw [readMember, Cursor.skip_of_blank blankBefore (by decide)]
  simp only [read_value, readMembers_skip, read_rest]
  refine ⟨_, last, rfl, ?_⟩
  rw [memberValues?, holds, hold]
  simp [named]

theorem readsMembers_member {first : Bool} {lead label text more : List Char} {name : String}
    {value : Value} {members : List (String × Value)} (leads : Lead first lead)
    (labels : Label name label) (here : Reads levels value text)
    (others : Members false members more) (later : ReadsMembers levels false members more) :
    ReadsMembers levels first ((name, value) :: members) (lead ++ label ++ text ++ more) := by
  intro steps offset rest enough
  obtain ⟨spelled, blankBefore, blankAfter⟩ := labels
  rename_i body before after
  cases steps with
  | zero => omega
  | succ steps =>
    have fewer : 2 * (after ++ text ++ (more ++ rest)).length + 3 ≤ steps := by
      simp only [List.length_append, List.length_cons] at enough ⊢
      omega
    -- Wherever the name starts, it is scanned from there and its member read after it.
    have onward : ∀ start, ∃ nodes stop last,
        scanString (start + 1)
            (body ++ '"' :: (before ++ ':' :: (after ++ (text ++ (more ++ rest))))) =
          .good name stop (before ++ ':' :: (after ++ (text ++ (more ++ rest)))) ∧
        readMember steps levels
            { name := name, fault := none, start := start, stop := stop, settled := 0
              after := 0, afterSettled := 0 }
            ⟨stop, before ++ ':' :: (after ++ (text ++ (more ++ rest)))⟩ =
          (nodes, .closed last, some ⟨last, rest⟩) ∧
        memberValues? nodes = some ((name, value) :: members) := by
      intro start
      obtain ⟨stop, scanned⟩ := scanString_of_body spelled (start + 1)
        (before ++ ':' :: (after ++ (text ++ (more ++ rest))))
      obtain ⟨nodes, last, read_member, hold⟩ := readMember_value
        { name := name, fault := none, start := start, stop := stop, settled := 0
          after := 0, afterSettled := 0 }
        rfl blankBefore blankAfter here others later steps stop rest fewer
      rw [List.append_assoc] at read_member
      exact ⟨nodes, stop, last, scanned, read_member, hold⟩
    simp only [List.append_assoc, List.cons_append]
    rw [readMembers]
    cases leads with
    | first blank =>
      obtain ⟨nodes, stop, last, scanned, read_member, hold⟩ := onward (offset + lead.length)
      refine ⟨nodes, last, ?_, hold⟩
      rw [Cursor.skip_of_blank blank (by decide)]
      simp [scanned, read_member]
    | @next blanks blanks' blank blank' =>
      obtain ⟨nodes, stop, last, scanned, read_member, hold⟩ :=
        onward (offset + blanks.length + 1 + blanks'.length)
      refine ⟨nodes, last, ?_, hold⟩
      rw [List.append_assoc, List.cons_append, Cursor.skip_of_blank blank (by decide)]
      simp [Cursor.skip_of_blank blank' (show Cursor.isSpace '"' = false by decide), scanned,
        read_member]

end

mutual

theorem reads_of_form {levels : Nat} : {value : Value} → {text : List Char} → Form value text →
    value.Within levels → Reads levels value text
  | _, _, .null, _ => reads_null
  | _, _, .true, _ => reads_true
  | _, _, .false, _ => reads_false
  | _, _, .int _, .int least greatest => reads_int least greatest
  | _, _, .text spelled, _ => reads_text spelled
  | _, _, .list inner, .list within => reads_list (readsItems_of_items inner within)
  | _, _, .object inner, .object within => reads_object (readsMembers_of_members inner within)

theorem readsItems_of_items {levels : Nat} {first : Bool} : {items : List Value} →
    {text : List Char} → Items first items text → (∀ item ∈ items, item.Within levels) →
    ReadsItems levels first items text
  | _, _, .close blank, _ => readsItems_close blank
  | _, _, .item leads form others, within =>
    readsItems_item leads form (reads_of_form form (within _ List.mem_cons_self)) others
      (readsItems_of_items others fun item member => within item (List.mem_cons_of_mem _ member))

theorem readsMembers_of_members {levels : Nat} {first : Bool} :
    {members : List (String × Value)} → {text : List Char} → Members first members text →
    (∀ member ∈ members, member.2.Within levels) → ReadsMembers levels first members text
  | _, _, .close blank, _ => readsMembers_close blank
  | _, _, .member leads labels form others, within =>
    readsMembers_member leads labels (reads_of_form form (within _ List.mem_cons_self)) others
      (readsMembers_of_members others fun member listed =>
        within member (List.mem_cons_of_mem _ listed))

end

end Node

/-- Every text of a value is a whole document that holds the value, if the value is within the levels
that are read. -/
theorem Document.read_of_text {value : Value} {text : String}
    (written : DocumentText value text.toList) (within : value.Within Node.depthLimit) :
    ∃ root, Document.read text = ⟨root, none⟩ ∧ root.value? = some value := by
  rw [Document.read]
  generalize text.toList = cs at written ⊢
  obtain ⟨blankBefore, form, blankAfter⟩ := written
  rename_i before inner after
  have ends : Ends after := by
    have blank := ends_blank_append blankAfter ends_nil
    rwa [List.append_nil] at blank
  obtain ⟨root, stop, read_root, holds⟩ := Node.reads_of_form form within
    (2 * (before ++ inner ++ after).length + 2) 0 before after blankBefore ends (by omega)
  refine ⟨root, ?_, holds⟩
  dsimp only
  rw [read_root]
  dsimp only
  rw [Cursor.skip_of_blank_only blankAfter]
  rfl

end Vouch.Json
