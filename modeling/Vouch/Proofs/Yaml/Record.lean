import Mathlib.Tactic
import Vouch.Proofs.Except
import Vouch.Yaml.Conform

/-!
The fields of a record in a YAML text.

A field that the document writes has the value that is written there, which is written once; any other
field has the value that stands in for it.
-/

namespace Vouch.Yaml

open Json (Found Member Shape Value)

def Written (members : List (Node × Node)) (name : String) (node : Node) : Prop :=
  ∃ style tag, (.scalar name style tag, node) ∈ members

/-- The members are those of the only document of the text, which may also be empty. -/
def HasMembers (text : String) (members : List (Node × Node)) : Prop :=
  (∃ tag, Node.documentsOf text = some [.mapping members tag]) ∨
    members = [] ∧ (Node.documentsOf text = some [] ∨
      ∃ tag, Node.documentsOf text = some [.scalar "" .plain tag])

/-- The field has the value that is written, in its shape, or else the one that stands in for it. -/
structure Gives (members : List (Node × Node)) (name : String) (shape : Shape)
    (standing value : Value) : Prop where
  written : ∀ node, Written members name node → conform shape node = some value
  unwritten : (∀ node, ¬Written members name node) → value = standing

variable {fields : List (Member Shape)} {found all : Found} {field : Member Shape}
  {members : List (Node × Node)} {standing value : Value}

theorem written_cons_iff {key inner node : Node} {name : String} :
    Written ((key, inner) :: members) name node ↔
      (∃ style tag, key = .scalar name style tag ∧ node = inner) ∨ Written members name node := by
  unfold Written
  simp only [List.mem_cons, Prod.mk.injEq]
  constructor
  · rintro ⟨style, tag, ⟨same, here⟩ | later⟩
    · exact .inl ⟨style, tag, same.symm, here⟩
    · exact .inr ⟨style, tag, later⟩
  · rintro (⟨style, tag, same, here⟩ | ⟨style, tag, later⟩)
    · exact ⟨style, tag, .inl ⟨same.symm, here⟩⟩
    · exact ⟨style, tag, .inr later⟩

theorem conformMembers_own {style : Style} {tag : Option String} {inner : Node}
    (own : fields.find? (·.name == field.name) = some field) (need : field.need = .instead standing)
    (ran : conformMembers fields found ((.scalar field.name style tag, inner) :: members) =
      some all) :
    found.lookup field.name = none ∧ ∃ settled, conform field.shape inner = some settled ∧
      conformMembers fields ((field.name, settled) :: found) members = some all := by
  rw [conformMembers, own] at ran
  dsimp only at ran
  rw [need] at ran
  by_cases twice : (found.lookup field.name).isSome = true
  · rw [if_pos twice] at ran
    cases ran
  rw [if_neg twice] at ran
  obtain ⟨settled, conforms, ran⟩ := Option.bind_eq_some_iff.mp ran
  exact ⟨Option.not_isSome_iff_eq_none.mp twice, settled, conforms, ran⟩

/-- Another member leaves what is found of a field alone. -/
theorem conformMembers_other {name : String} {style : Style} {tag : Option String} {inner : Node}
    (differs : field.name ≠ name)
    (ran : conformMembers fields found ((.scalar name style tag, inner) :: members) = some all) :
    ∃ next : Found, next.lookup field.name = found.lookup field.name ∧
      conformMembers fields next members = some all := by
  have passed (settled : Value) :
      List.lookup field.name ((name, settled) :: found) = found.lookup field.name := by
    rw [List.lookup_cons, beq_eq_false_iff_ne.mpr differs]
  rw [conformMembers] at ran
  split at ran
  case h_1 => exact ⟨found, rfl, ran⟩
  case h_2 =>
    split_ifs at ran
    · split at ran
      · cases ran
      · exact ⟨_, passed _, ran⟩
      · obtain ⟨settled, _, ran⟩ := Option.bind_eq_some_iff.mp ran
        exact ⟨_, passed settled, ran⟩
    · obtain ⟨settled, _, ran⟩ := Option.bind_eq_some_iff.mp ran
      exact ⟨_, passed settled, ran⟩

theorem lookup_conformMembers (own : fields.find? (·.name == field.name) = some field)
    (need : field.need = .instead standing)
    (ran : conformMembers fields found members = some all) :
    (∀ node, Written members field.name node → found.lookup field.name = none ∧
      ∃ value, conform field.shape node = some value ∧ all.lookup field.name = some value) ∧
    ((∀ node, ¬Written members field.name node) →
      all.lookup field.name = found.lookup field.name) := by
  induction members generalizing found with
  | nil =>
    cases ran
    exact ⟨fun _ ⟨_, _, member⟩ => absurd member List.not_mem_nil, fun _ => rfl⟩
  | cons member rest ih =>
    obtain ⟨key, inner⟩ := member
    cases key with
    | scalar name style tag =>
      by_cases named : field.name = name
      · subst named
        obtain ⟨unfound, settled, conforms, ran⟩ := conformMembers_own own need ran
        obtain ⟨written, unwritten⟩ := ih ran
        rw [List.lookup_cons_self] at written unwritten
        have once : ∀ node, ¬Written rest field.name node := by
          intro node later
          cases (written node later).1
        constructor
        · intro node here
          refine ⟨unfound, settled, ?_, unwritten once⟩
          obtain ⟨_, _, _, rfl⟩ | later := written_cons_iff.mp here
          · exact conforms
          · exact absurd later (once node)
        · intro none
          exact absurd (written_cons_iff.mpr (.inl ⟨style, tag, rfl, rfl⟩)) (none inner)
      · obtain ⟨next, same, ran⟩ := conformMembers_other named ran
        obtain ⟨written, unwritten⟩ := ih ran
        rw [same] at written unwritten
        constructor
        · intro node here
          obtain ⟨_, _, ⟨⟩, _⟩ | later := written_cons_iff.mp here
          · exact absurd rfl named
          · exact written node later
        · intro none
          exact unwritten fun node later => none node (written_cons_iff.mpr (.inr later))
    | _ => cases ran

theorem gives_of_settle (own : fields.find? (·.name == field.name) = some field)
    (need : field.need = .instead standing)
    (ran : conformMembers fields [] members = some all)
    (settled : field.settle .kept 0 all = .ok value) :
    Gives members field.name field.shape standing value := by
  obtain ⟨written, unwritten⟩ := lookup_conformMembers own need ran
  unfold Member.settle at settled
  constructor
  · intro node here
    obtain ⟨_, other, conforms, found⟩ := written node here
    rw [found] at settled
    cases settled
    exact conforms
  · intro none
    rw [unwritten none, need] at settled
    cases settled
    rfl

theorem exists_members {title text : String} (settled : settle? (.record title fields) text = some value) :
    ∃ members all values, HasMembers text members ∧
      conformMembers fields [] members = some all ∧
      fields.mapM (Member.settle .kept 0 all) = .ok values ∧ value = .list values := by
  have of_nothing (settled : (fields.mapM (Member.settle .kept 0 [])).toOption.map .list = some value) :
      ∃ values, fields.mapM (Member.settle .kept 0 []) = .ok values ∧ value = .list values := by
    obtain ⟨values, given, rfl⟩ := Option.map_eq_some_iff.mp settled
    exact ⟨values, ok_of_toOption given, rfl⟩
  -- A scalar has no members, so it is only taken if it says nothing.
  have of_scalar {s : String} {style : Style} {tag : Option String}
      (settled : conform (.record title fields) (.scalar s style tag) = some value) :
      s = "" ∧ style = .plain ∧
        (fields.mapM (Member.settle .kept 0 [])).toOption.map .list = some value := by
    cases style with
    | plain =>
      change (if s.isEmpty then _ else none) = some value at settled
      split_ifs at settled with empty
      exact ⟨String.isEmpty_iff.mp empty, rfl, settled⟩
    | _ => cases settled
  obtain ⟨documents, read, settled⟩ := Option.bind_eq_some_iff.mp settled
  split at settled
  case h_1 =>
    obtain ⟨values, given, rfl⟩ := of_nothing settled
    exact ⟨[], [], values, .inr ⟨rfl, .inl read⟩, rfl, given, rfl⟩
  case h_2 root =>
    cases root with
    | scalar s style tag =>
      obtain ⟨rfl, rfl, settled⟩ := of_scalar settled
      obtain ⟨values, given, rfl⟩ := of_nothing settled
      exact ⟨[], [], values, .inr ⟨rfl, .inr ⟨tag, read⟩⟩, rfl, given, rfl⟩
    | list items tag => cases settled
    | mapping members tag =>
      rw [conform] at settled
      obtain ⟨all, ran, settled⟩ := Option.bind_eq_some_iff.mp settled
      obtain ⟨values, given, rfl⟩ := Option.map_eq_some_iff.mp settled
      exact ⟨members, all, values, .inl ⟨tag, read⟩, ran, ok_of_toOption given, rfl⟩
    | knot => cases settled
  case h_3 => cases settled

end Vouch.Yaml
