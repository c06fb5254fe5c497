import Mathlib.Tactic
import Vouch.Json.Node

/-!
Parts of a document that have a plain value.

A plain value tells which kind of part it is and what its items or members hold, and nothing is wrong
with a part that has one.
-/

namespace Vouch.Json

namespace Node

theorem eq_of_value?_null {node : Node} (holds : node.value? = some .null) :
    ∃ span, node = .null span := by
  unfold value? at holds
  split at holds <;> simp_all

theorem eq_of_value?_bool {node : Node} {b : Bool} (holds : node.value? = some (.bool b)) :
    ∃ span, node = .bool b span := by
  unfold value? at holds
  split at holds <;> simp_all

theorem eq_of_value?_int {node : Node} {n : Int} (holds : node.value? = some (.int n)) :
    ∃ span, node = .number (.whole n) span := by
  unfold value? at holds
  split at holds <;> simp_all

theorem eq_of_value?_text {node : Node} {s : String} (holds : node.value? = some (.text s)) :
    ∃ span, node = .text s span := by
  unfold value? at holds
  split at holds <;> simp_all

theorem eq_of_value?_list {node : Node} {items : List Value}
    (holds : node.value? = some (.list items)) :
    ∃ start nodes stop, node = .list start false nodes (.closed stop) ∧
      itemValues? nodes = some items := by
  unfold value? at holds
  split at holds <;> simp_all

theorem eq_of_value?_object {node : Node} {members : List (String × Value)}
    (holds : node.value? = some (.object members)) :
    ∃ start nodes stop, node = .object start false nodes (.closed stop) ∧
      memberValues? nodes = some members := by
  unfold value? at holds
  split at holds <;> simp_all

theorem eq_of_itemValues?_nil {nodes : List Node} (holds : itemValues? nodes = some []) :
    nodes = [] := by
  cases nodes with
  | nil => rfl
  | cons node rest =>
    rw [itemValues?] at holds
    simp [Option.bind_eq_some_iff] at holds

theorem eq_of_itemValues?_cons {nodes : List Node} {item : Value} {items : List Value}
    (holds : itemValues? nodes = some (item :: items)) :
    ∃ node rest, nodes = node :: rest ∧ node.value? = some item ∧
      itemValues? rest = some items := by
  cases nodes with
  | nil => cases holds
  | cons node rest =>
    rw [itemValues?] at holds
    simpa [Option.bind_eq_some_iff] using holds

theorem memberValues?_cons {key : Key} {node : Node} {rest : List (Key × Node)}
    {members : List (String × Value)} (holds : memberValues? ((key, node) :: rest) = some members) :
    ∃ value others, key.fault = none ∧ node.value? = some value ∧
      memberValues? rest = some others ∧ members = (key.name, value) :: others := by
  rw [memberValues?] at holds
  cases fault : key.fault with
  | some fault => simp [fault] at holds
  | none =>
    obtain ⟨value, valued, others, values, rfl⟩ : ∃ value, node.value? = some value ∧
        ∃ others, memberValues? rest = some others ∧ (key.name, value) :: others = members := by
      simpa [fault, Option.bind_eq_some_iff] using holds
    exact ⟨value, others, rfl, valued, values, rfl⟩

theorem eq_of_memberValues?_singleton {nodes : List (Key × Node)} {name : String} {value : Value}
    (valued : memberValues? nodes = some [(name, value)]) :
    ∃ key node, nodes = [(key, node)] ∧ key.name = name ∧ key.fault = none ∧
      node.value? = some value := by
  obtain _ | ⟨⟨key, node⟩, nodes⟩ := nodes
  · cases valued
  obtain ⟨_, _, unharmed, here, later, same⟩ := memberValues?_cons valued
  obtain ⟨⟨⟩, rfl⟩ := List.cons.inj same
  obtain _ | ⟨⟨other, node⟩, nodes⟩ := nodes
  · exact ⟨key, _, rfl, rfl, unharmed, here⟩
  · obtain ⟨_, _, -, -, -, same⟩ := memberValues?_cons later
    cases same

theorem eq_of_memberValues?_pair {nodes : List (Key × Node)} {name label : String}
    {value other : Value} (valued : memberValues? nodes = some [(name, value), (label, other)]) :
    ∃ first one second two, nodes = [(first, one), (second, two)] ∧
      (first.name = name ∧ second.name = label) ∧ (first.fault = none ∧ second.fault = none) ∧
      one.value? = some value ∧ two.value? = some other := by
  obtain _ | ⟨⟨first, one⟩, nodes⟩ := nodes
  · cases valued
  obtain ⟨_, _, unharmed, here, later, same⟩ := memberValues?_cons valued
  obtain ⟨⟨⟩, rfl⟩ := List.cons.inj same
  obtain ⟨second, two, rfl, named, unharmed_second, there⟩ := eq_of_memberValues?_singleton later
  exact ⟨first, one, second, two, rfl, ⟨rfl, named⟩, ⟨unharmed, unharmed_second⟩, here, there⟩

theorem parts_of_value?_list {start : Nat} {deep : Bool} {items : List Node} {ending : Ending}
    {value : Value} (holds : (Node.list start deep items ending).value? = some value) :
    deep = false ∧ (∃ stop, ending = .closed stop) ∧ ∃ values, itemValues? items = some values := by
  unfold value? at holds
  split at holds <;> simp_all
  obtain ⟨values, valued, _⟩ := holds
  exact ⟨values, valued⟩

theorem parts_of_value?_object {start : Nat} {deep : Bool} {members : List (Key × Node)}
    {ending : Ending} {value : Value}
    (holds : (Node.object start deep members ending).value? = some value) :
    deep = false ∧ (∃ stop, ending = .closed stop) ∧
      ∃ values, memberValues? members = some values := by
  unfold value? at holds
  split at holds <;> simp_all
  obtain ⟨values, valued, _⟩ := holds
  exact ⟨values, valued⟩

mutual

/-- Nothing is wrong with a part that has a plain value. -/
theorem faultless : (node : Node) → {value : Value} → node.value? = some value →
    node.keepFault = none ∧ node.passFault = none
  | .null _, _, _ | .bool .., _, _ | .number .., _, _ | .text .., _, _ => ⟨rfl, rfl⟩
  | .list start deep items ending, value, holds => by
    obtain ⟨rfl, ⟨stop, rfl⟩, values, valued⟩ := parts_of_value?_list holds
    have inner := faultless_items items valued
    rw [keepFault, passFault, inner.1, inner.2]
    exact ⟨rfl, rfl⟩
  | .object start deep members ending, value, holds => by
    obtain ⟨rfl, ⟨stop, rfl⟩, values, valued⟩ := parts_of_value?_object holds
    have inner := faultless_members members valued
    rw [keepFault, passFault, inner.1, inner.2]
    exact ⟨rfl, rfl⟩
  | .spoilt .., _, holds => by cases holds

theorem faultless_items : (items : List Node) → {values : List Value} →
    itemValues? items = some values → keepItems items = none ∧ passItems items = none
  | [], _, _ => ⟨rfl, rfl⟩
  | item :: rest, values, holds => by
    rw [itemValues?] at holds
    obtain ⟨value, valued, others, values, rfl⟩ : ∃ value, item.value? = some value ∧
        ∃ others, itemValues? rest = some others ∧ value :: others = values := by
      simpa [Option.bind_eq_some_iff] using holds
    have here := faultless item valued
    have later := faultless_items rest values
    rw [keepItems, passItems, here.1, here.2, later.1, later.2]
    exact ⟨rfl, rfl⟩

theorem faultless_members : (members : List (Key × Node)) → {values : List (String × Value)} →
    memberValues? members = some values → keepMembers members = none ∧ passMembers members = none
  | [], _, _ => ⟨rfl, rfl⟩
  | (key, node) :: rest, values, holds => by
    obtain ⟨value, others, unharmed, valued, values, rfl⟩ := memberValues?_cons holds
    have here := faultless node valued
    have later := faultless_members rest values
    rw [keepMembers, passMembers, unharmed, here.1, here.2, later.1, later.2]
    exact ⟨rfl, rfl⟩

end

end Node

end Vouch.Json
