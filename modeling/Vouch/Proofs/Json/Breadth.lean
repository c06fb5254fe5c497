import Mathlib.Tactic
import Vouch.Json.Part
import Vouch.Json.Union
import Vouch.Proofs.Except
import Vouch.Proofs.Json.Conform

/-!
How long the lists in a document are.

Reading a text takes a step for every item of a list, so no list in its tree has more items than there
are steps.  Lists that are read from parts of the tree have as many items as these parts.
-/

namespace Vouch.Json

inductive Node.Narrow (most : Nat) : Node → Prop where
  | null (span : Span) : Narrow most (.null span)
  | bool (b : Bool) (span : Span) : Narrow most (.bool b span)
  | number (n : Number) (span : Span) : Narrow most (.number n span)
  | text (s : String) (span : Span) : Narrow most (.text s span)
  | list {start : Nat} {deep : Bool} {items : List Node} {ending : Ending}
    (fits : items.length ≤ most) (inner : ∀ item ∈ items, Narrow most item) :
    Narrow most (.list start deep items ending)
  | object {start : Nat} {deep : Bool} {members : List (Key × Node)} {ending : Ending}
    (inner : ∀ member ∈ members, Narrow most member.2) :
    Narrow most (.object start deep members ending)
  | spoilt (start : Nat) (mark : Mark) (wanted : Fault) (passed : Option Fault) :
    Narrow most (.spoilt start mark wanted passed)

namespace Node

/-! ### Reading -/

section
variable {most : Nat}

theorem narrow_word {start : Nat} {value : Span → Node} {expected rest : List Char}
    (plain : ∀ span, (value span).Narrow most) : (word start value expected rest).1.Narrow most := by
  unfold word
  cases letters (start + 1) expected rest with
  | ok cursor => exact plain _
  | error fault => exact .spoilt ..

theorem narrow_ofScan {α : Type} {start : Nat} {mark : Mark} {value : α → Span → Node}
    {scanned : Scanned α} (plain : ∀ a span, (value a span).Narrow most) :
    (ofScan start mark value scanned).1.Narrow most := by
  cases scanned with
  | good a offset rest => exact plain a _
  | _ => exact .spoilt ..

mutual

theorem narrow_read : (steps levels : Nat) → (cursor : Cursor) → steps ≤ most + 1 →
    (read steps levels cursor).1.Narrow most
  | 0, levels, cursor, _ => by
    rw [read]
    exact .spoilt ..
  | steps + 1, levels, cursor, enough => by
    have fewer : steps ≤ most := Nat.le_of_succ_le_succ enough
    rw [read]
    dsimp only
    split
    · exact .spoilt ..
    · exact narrow_word .null
    · exact narrow_word (.bool true)
    · exact narrow_word (.bool false)
    · exact narrow_ofScan .text
    · obtain ⟨short, inner⟩ := narrow_readItems steps (levels - 1) true _ fewer
      exact .list (short.trans fewer) inner
    · exact .object (narrow_readMembers steps (levels - 1) true _ fewer)
    · split_ifs
      · exact narrow_ofScan .number
      · exact .spoilt ..

theorem narrow_readItems : (steps levels : Nat) → (first : Bool) → (cursor : Cursor) →
    steps ≤ most → (readItems steps levels first cursor).1.length ≤ steps ∧
      ∀ item ∈ (readItems steps levels first cursor).1, item.Narrow most
  | 0, levels, first, cursor, _ => by
    rw [readItems]
    exact ⟨le_rfl, nofun⟩
  | steps + 1, levels, first, cursor, enough => by
    have fewer : steps ≤ most := Nat.le_of_succ_le enough
    rw [readItems]
    dsimp only
    split
    · exact ⟨Nat.zero_le _, nofun⟩
    · exact ⟨Nat.zero_le _, nofun⟩
    · rename_i c rest _ _
      generalize (if first = true then cursor.skip else Cursor.skip ⟨_, rest⟩) = next
      split_ifs
      · exact ⟨Nat.zero_le _, nofun⟩
      · exact ⟨Nat.zero_le _, nofun⟩
      · exact ⟨Nat.zero_le _, nofun⟩
      · have here := narrow_read steps levels next (fewer.trans (Nat.le_succ _))
        split
        · rename_i item after found
          rw [found] at here
          obtain ⟨short, inner⟩ := narrow_readItems steps levels false after fewer
          exact ⟨Nat.succ_le_succ short, List.forall_mem_cons.mpr ⟨here, inner⟩⟩
        · rename_i item found
          rw [found] at here
          exact ⟨Nat.succ_le_succ (Nat.zero_le _), List.forall_mem_singleton.mpr here⟩

theorem narrow_readMembers : (steps levels : Nat) → (first : Bool) → (cursor : Cursor) →
    steps ≤ most → ∀ member ∈ (readMembers steps levels first cursor).1, member.2.Narrow most
  | 0, levels, first, cursor, _ => by
    rw [readMembers]
    exact nofun
  | steps + 1, levels, first, cursor, enough => by
    have fewer : steps ≤ most := Nat.le_of_succ_le enough
    rw [readMembers]
    dsimp only
    split
    · exact nofun
    · exact nofun
    · rename_i c rest _ _
      generalize (if first = true then cursor.skip else Cursor.skip ⟨_, rest⟩) = next
      split
      · exact nofun
      · split
        · exact nofun
        · split
          · exact nofun
          · exact narrow_readMember steps levels _ _ fewer
          · exact narrow_readMember steps levels _ _ fewer
        · exact nofun
        · exact nofun

theorem narrow_readMember : (steps levels : Nat) → (key : Key) → (cursor : Cursor) →
    steps ≤ most → ∀ member ∈ (readMember steps levels key cursor).1, member.2.Narrow most
  | 0, levels, key, cursor, _ => by
    rw [readMember]
    exact nofun
  | steps + 1, levels, key, cursor, enough => by
    have fewer : steps ≤ most := Nat.le_of_succ_le enough
    rw [readMember]
    dsimp only
    split
    · exact List.forall_mem_singleton.mpr (.spoilt ..)
    · rename_i rest _
      have here := narrow_read steps levels ⟨cursor.skip.offset + 1, rest⟩
        (fewer.trans (Nat.le_succ _))
      split
      · rename_i value after found
        rw [found] at here
        exact List.forall_mem_cons.mpr
          ⟨here, narrow_readMembers steps levels false after.skip fewer⟩
      · rename_i value found
        rw [found] at here
        exact List.forall_mem_singleton.mpr here
    · exact List.forall_mem_singleton.mpr (.spoilt ..)

end

theorem narrow_of_read (text : String) :
    (Document.read text).root.Narrow (2 * text.length + 1) := by
  have root := narrow_read (2 * text.toList.length + 2) depthLimit ⟨0, text.toList⟩ le_rfl
  rw [String.length_toList] at root
  unfold Document.read
  dsimp only
  split
  · rename_i node found
    rw [String.length_toList] at found
    rw [found] at root
    exact root
  · rename_i node next found
    rw [String.length_toList] at found
    rw [found] at root
    exact root

end

end Node

/-! ### Settled records -/

/-- The value is what stands in for the field, or the settled form of a part. -/
def Member.Yields (most : Nat) (field : Member Shape) (value : Value) : Prop :=
  field.standIn? = some value ∨
    ∃ o, ∃ node : Node, node.Narrow most ∧ node.conform o field.shape = .ok value

section
variable {most : Nat} {o : Origin} {fields : List (Member Shape)}

theorem Member.standIn?_of_isAbsent {field : Member Shape} {node : Node}
    (absent : field.isAbsent node = true) : field.standIn? = some .null := by
  unfold isAbsent at absent
  unfold standIn?
  split at absent
  · split at absent
    · rename_i optional
      rw [optional]
    · cases absent
  · cases absent

theorem Member.standIn?_of_need {field : Member Shape} {required : Except Refusal Value}
    {refusal : Refusal} {value : Value} (refused : required = .error refusal)
    (given : (match field.need with
      | .required => required
      | .optional => .ok .null
      | .instead value => .ok value) = .ok value) : field.standIn? = some value := by
  unfold standIn?
  cases need : field.need with
  | required =>
    rw [need, refused] at given
    cases given
  | optional =>
    rw [need] at given
    cases given
    rfl
  | instead value =>
    rw [need] at given
    cases given
    rfl

def Sourced (most : Nat) (fields : List (Member Shape)) (found : Found) : Prop :=
  ∀ entry ∈ found, ∃ field, fields.find? (fun field => field.name == entry.1) = some field ∧
    field.Yields most entry.2

theorem Sourced.cons {found : Found} {field : Member Shape} {name : String} {value : Value}
    (named : fields.find? (fun field => field.name == name) = some field)
    (yields : field.Yields most value) (sourced : Sourced most fields found) :
    Sourced most fields ((name, value) :: found) :=
  List.forall_mem_cons.mpr ⟨⟨field, named, yields⟩, sourced⟩

theorem sourced_of_conformMembers {found all : Found} {members : List (Key × Node)}
    (narrow : ∀ member ∈ members, member.2.Narrow most) (sourced : Sourced most fields found)
    (read : Node.conformMembers o fields found members = .ok all) : Sourced most fields all := by
  induction members generalizing found with
  | nil =>
    cases read
    exact sourced
  | cons member rest ih =>
    obtain ⟨key, node⟩ := member
    obtain ⟨here, later⟩ := List.forall_mem_cons.mp narrow
    rw [Node.conformMembers] at read
    cases fault : key.fault with
    | some fault =>
      rw [fault] at read
      cases read
    | none =>
      simp only [fault] at read
      cases named : fields.find? (fun field => field.name == key.name) with
      | some field =>
        simp only [named] at read
        split_ifs at read with _ _ absent
        · cases read
        · cases read
        · exact ih later (sourced.cons named (.inl (field.standIn?_of_isAbsent absent))) read
        · obtain ⟨settled, conforms, read⟩ := ok_of_bind read
          exact ih later (sourced.cons named (.inr ⟨o, node, here, conforms⟩)) read
      | none =>
        simp only [named] at read
        split_ifs at read with written
        · cases passed : node.passFault with
          | some fault =>
            rw [passed] at read
            cases read
          | none =>
            rw [passed] at read
            exact ih later sourced read
        · exact ih later sourced read

/-- The settled form of an object has for each field what the field yields. -/
theorem yields_of_settle {place : Origin} {stop : Nat} {found : Found} {values : List Value}
    (distinct : (fieldNames fields).Nodup) (sourced : Sourced most fields found)
    (settled : fields.mapM (Member.settle place stop found) = .ok values) :
    List.Forall₂ (Member.Yields most) fields values := by
  have listed : ∀ field ∈ fields, field ∈ fields := fun _ member => member
  refine ((List.forall₂_and_left _ _).mpr ⟨listed, forall₂_of_mapM settled⟩).imp ?_
  rintro field value ⟨member, settled⟩
  rw [Member.settle] at settled
  cases known : found.lookup field.name with
  | some known =>
    rw [known] at settled
    cases settled
    obtain ⟨before, after, rfl, _⟩ := List.lookup_eq_some_iff.mp known
    obtain ⟨other, named, yields⟩ := sourced _ (List.mem_append_right _ List.mem_cons_self)
    rw [find?_field distinct member] at named
    cases named
    exact yields
  | none =>
    rw [known] at settled
    exact .inl (field.standIn?_of_need rfl settled)

theorem yields_of_conformSlots {title : String} {total : Nat} {ending : Ending} {items : List Node}
    {values : List Value} (narrow : ∀ item ∈ items, item.Narrow most)
    (read : Node.conformSlots o title total fields ending items = .ok values) :
    List.Forall₂ (Member.Yields most) fields values := by
  induction items generalizing fields values with
  | nil =>
    cases fields with
    | nil =>
      rw [Node.conformSlots] at read
      obtain ⟨_, _, read⟩ := ok_of_bind read
      cases read
      exact .nil
    | cons field fields =>
      rw [Node.conformSlots] at read
      obtain ⟨stop, _, read⟩ := ok_of_bind read
      have each := forall₂_of_mapM read
      rw [← List.zipIdx_map_fst 0 (field :: fields), List.forall₂_map_left_iff]
      exact each.imp fun (field, _) _ given => .inl (field.standIn?_of_need rfl given)
      exact nofun
  | cons item rest ih =>
    obtain ⟨here, later⟩ := List.forall_mem_cons.mp narrow
    cases fields with
    | nil =>
      rw [Node.conformSlots] at read
      obtain ⟨_, _, read⟩ := ok_of_bind read
      cases read
      exact .nil
    | cons field fields =>
      rw [Node.conformSlots] at read
      obtain ⟨value, yields, read⟩ : ∃ value, field.Yields most value ∧
          (do return value :: (← Node.conformSlots o title total fields ending rest)) =
            .ok values := by
        split_ifs at read with absent
        · exact ⟨.null, .inl (field.standIn?_of_isAbsent absent), read⟩
        · obtain ⟨value, conforms, read⟩ := ok_of_bind read
          exact ⟨value, .inr ⟨o, item, here, conforms⟩, read⟩
      obtain ⟨others, slots, read⟩ := ok_of_bind read
      cases read
      exact .cons yields (ih later slots)

def Gathers (most : Nat) (fields : List (Member Shape)) (value : Value) : Prop :=
  ∃ values, value = .list values ∧ List.Forall₂ (Member.Yields most) fields values

theorem gathers_of_conform {title : String} {node : Node} {value : Value}
    (distinct : (fieldNames fields).Nodup) (narrow : node.Narrow most)
    (conforms : node.conform o (.record title fields) = .ok value) :
    Gathers most fields value := by
  cases narrow with
  | list fits inner =>
    rw [Node.conform] at conforms
    obtain ⟨_, _, conforms⟩ := ok_of_bind conforms
    obtain ⟨values, slots, conforms⟩ := ok_of_bind conforms
    cases conforms
    exact ⟨values, rfl, yields_of_conformSlots inner slots⟩
  | object inner =>
    rw [Node.conform] at conforms
    obtain ⟨_, _, conforms⟩ := ok_of_bind conforms
    obtain ⟨found, read, conforms⟩ := ok_of_bind conforms
    obtain ⟨stop, _, conforms⟩ := ok_of_bind conforms
    obtain ⟨values, settled, conforms⟩ := ok_of_bind conforms
    cases conforms
    exact ⟨values, rfl,
      yields_of_settle distinct (sourced_of_conformMembers inner (List.forall_mem_nil _) read) settled⟩
  | _ =>
    rw [Node.conform] at conforms
    cases conforms

theorem length_of_conformItems {shape : Shape} {items : List Node} {values : List Value}
    (read : Node.conformItems o shape items = .ok values) : values.length = items.length := by
  induction items generalizing values with
  | nil =>
    rw [Node.conformItems] at read
    cases read
    rfl
  | cons item rest ih =>
    rw [Node.conformItems] at read
    obtain ⟨value, _, read⟩ := ok_of_bind read
    obtain ⟨others, later, read⟩ := ok_of_bind read
    cases read
    rw [List.length_cons, List.length_cons, ih later]

/-- A list that a field yields is no longer than the lists of the document. -/
theorem Member.Yields.length_le {α : Type} {name : String} {shape : Shape} {value : Value}
    {part : Value → Option α} {items : List α}
    (yields : Member.Yields most ⟨name, .instead (.list []), .list shape⟩ value)
    (stand : value.list? part = some items) : items.length ≤ most := by
  obtain spared | ⟨o, node, narrow, conforms⟩ := yields
  · cases spared
    cases stand
    exact Nat.zero_le _
  · cases narrow with
    | list fits inner =>
      rw [Node.conform] at conforms
      obtain ⟨_, _, conforms⟩ := ok_of_bind conforms
      obtain ⟨values, read, conforms⟩ := ok_of_bind conforms
      obtain ⟨_, _, conforms⟩ := ok_of_bind conforms
      cases conforms
      rw [length_of_mapM stand, length_of_conformItems read]
      exact fits
    | object inner =>
      rw [Node.conform] at conforms
      · cases conforms
      · intro title fields same
        cases same
      · intro title own tag variants same
        cases same
    | _ =>
      rw [Node.conform] at conforms
      cases conforms

end

/-! ### Tagged unions -/

theorem Node.mismatch_ne_ok {α : Type} (o : Origin) (node : Node) (expected : String) (a : α) :
    node.mismatch o expected ≠ .ok a := by
  unfold mismatch
  cases node.finding <;> exact nofun

namespace Tagged

variable {union : Tagged} {most : Nat}

theorem mem_of_variant {tag : Node} {variant : Variant Shape}
    (named : union.variant tag = .ok variant) : variant ∈ union.variants := by
  unfold Tagged.variant at named
  split at named
  · split at named
    · rename_i found
      cases named
      exact List.mem_of_find?_eq_some found
    · cases named
  · exact absurd named (Node.mismatch_ne_ok _ _ _ _)

theorem mem_of_variantAmong {found : Option (Variant Shape)} {members : List (Key × Node)}
    {variant : Variant Shape} (listed : ∀ other ∈ found, other ∈ union.variants)
    (named : union.variantAmong found members = .ok (some variant)) :
    variant ∈ union.variants := by
  induction members generalizing found with
  | nil =>
    cases named
    exact listed variant rfl
  | cons member rest ih =>
    obtain ⟨key, node⟩ := member
    rw [variantAmong] at named
    cases fault : key.fault with
    | some fault =>
      rw [fault] at named
      cases named
    | none =>
      simp only [fault] at named
      split_ifs at named with tagged twice
      · cases named
      · obtain ⟨other, read, named⟩ := ok_of_bind named
        refine ih ?_ named
        rintro _ ⟨⟩
        exact mem_of_variant read
      · cases kept : node.keepFault with
        | some fault =>
          rw [kept] at named
          cases named
        | none =>
          rw [kept] at named
          exact ih listed named

/-- What the record of a document is made of. -/
theorem gathers_of_conform {node : Node} {name : String} {value : Value}
    (distinct : ∀ variant ∈ union.variants, (fieldNames variant.fields).Nodup)
    (narrow : node.Narrow most) (conforms : union.conform node = .ok (name, value)) :
    ∃ variant ∈ union.variants, variant.name = name ∧ Gathers most variant.fields value := by
  unfold conform at conforms
  cases narrow with
  | @list _ _ items _ fits inner =>
    obtain ⟨_, _, conforms⟩ := ok_of_bind conforms
    cases items with
    | nil =>
      obtain ⟨_, _, conforms⟩ := ok_of_bind conforms
      cases conforms
    | cons tag items =>
      obtain ⟨variant, named, conforms⟩ := ok_of_bind conforms
      cases kept : Node.keepItems items with
      | some fault =>
        rw [kept] at conforms
        cases conforms
      | none =>
        rw [kept] at conforms
        obtain ⟨_, _, conforms⟩ := ok_of_bind conforms
        obtain ⟨values, slots, conforms⟩ := ok_of_bind conforms
        cases conforms
        exact ⟨variant, mem_of_variant named, rfl, values, rfl,
          yields_of_conformSlots (List.forall_mem_cons.mp inner).2 slots⟩
  | object inner =>
    obtain ⟨_, _, conforms⟩ := ok_of_bind conforms
    obtain ⟨found, among, conforms⟩ := ok_of_bind conforms
    obtain ⟨stop, _, conforms⟩ := ok_of_bind conforms
    cases found with
    | none => cases conforms
    | some variant =>
      have listed := mem_of_variantAmong (fun _ impossible => by cases impossible) among
      obtain ⟨found, read, conforms⟩ := ok_of_bind conforms
      obtain ⟨values, settled, conforms⟩ := ok_of_bind conforms
      cases conforms
      exact ⟨variant, listed, rfl, values, rfl, yields_of_settle (distinct _ listed)
        (sourced_of_conformMembers inner (List.forall_mem_nil _) read) settled⟩
  | _ => cases conforms

end Tagged

/-- What a document consists of that is read as one of several records. -/
theorem Document.gathers_of_decodeTagged {α : Type} {union : Tagged}
    {ofRecord? : String → Value → Option α} {text : String} {a : α}
    (distinct : ∀ variant ∈ union.variants, (fieldNames variant.fields).Nodup)
    (read : decodeTagged union ofRecord? text = .ok a) :
    ∃ variant ∈ union.variants, ∃ value, Gathers (2 * text.length + 1) variant.fields value ∧
      ofRecord? variant.name value = some a := by
  obtain ⟨⟨name, value⟩, whole, read⟩ := ok_of_bind read
  obtain ⟨settled, conforms, whole⟩ := ok_of_bind whole
  have same : settled = (name, value) := by
    split at whole <;> cases whole
    rfl
  subst same
  obtain ⟨variant, listed, rfl, gathers⟩ :=
    Tagged.gathers_of_conform distinct (Node.narrow_of_read text) conforms
  refine ⟨variant, listed, value, gathers, ?_⟩
  dsimp only at read
  cases stands : ofRecord? variant.name value with
  | none =>
    rw [stands] at read
    cases read
  | some other =>
    rw [stands] at read
    cases read
    rfl

end Vouch.Json
