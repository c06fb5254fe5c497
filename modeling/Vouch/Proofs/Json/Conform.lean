import Mathlib.Tactic
import Vouch.Json.Union
import Vouch.Proofs.Json.Plain

/-!
What a part of a document settles to, given its plain value.

Whether a part conforms to a shape and what it settles to is a matter of its plain value alone.  The
members of a record may stand in any order and among members that the record does not have.
-/

namespace Vouch.Json

theorem Node.shallow_of_not_deep (o : Origin) (start : Nat) : shallow o start false = .ok () := by
  rw [shallow, if_neg]
  rintro ⟨-, deep⟩
  cases deep

/-! ### Shapes and plain values -/

def Conforms (o : Origin) (shape : Shape) (value settled : Value) : Prop :=
  ∀ node : Node, node.value? = some value → node.conform o shape = .ok settled

section
variable {o : Origin}

theorem conforms_text (s : String) : Conforms o .text (.text s) (.text s) := by
  intro node holds
  obtain ⟨span, rfl⟩ := Node.eq_of_value?_text holds
  rfl

theorem conforms_stamp {s : String} {t : Time.Instant} (read : Time.Instant.read s = .ok t) :
    Conforms o .stamp (.text s) (.text t.text) := by
  intro node holds
  obtain ⟨span, rfl⟩ := Node.eq_of_value?_text holds
  rw [Node.conform, Node.conformScalar, read]

theorem conforms_flag (b : Bool) : Conforms o .flag (.bool b) (.bool b) := by
  intro node holds
  obtain ⟨span, rfl⟩ := Node.eq_of_value?_bool holds
  rfl

theorem conforms_whole {name : String} {least greatest n : Int}
    (bounds : least ≤ n ∧ n ≤ greatest) :
    Conforms o (.whole name least greatest) (.int n) (.int n) := by
  intro node holds
  obtain ⟨span, rfl⟩ := Node.eq_of_value?_int holds
  rw [Node.conform, Node.conformScalar, if_pos bounds]

theorem conforms_choice {names : List String} {name : String} (listed : name ∈ names) :
    Conforms o (.choice names) (.text name) (.text name) := by
  intro node holds
  obtain ⟨span, rfl⟩ := Node.eq_of_value?_text holds
  cases o <;> rw [Node.conform, Node.conformScalar, Node.conformChoice, if_pos listed]

theorem conforms_list {shape : Shape} {items settled : List Value}
    (inner : List.Forall₂ (Conforms o shape) items settled) :
    Conforms o (.list shape) (.list items) (.list settled) := by
  intro node holds
  obtain ⟨start, nodes, stop, rfl, valued⟩ := Node.eq_of_value?_list holds
  -- The items are read one by one, so the induction is on the values that they have.
  have read : Node.conformItems o shape nodes = .ok settled := by
    clear holds
    induction inner generalizing nodes with
    | nil =>
      rw [Node.eq_of_itemValues?_nil valued]
      rfl
    | cons here _ ih =>
      obtain ⟨node, rest, rfl, first, others⟩ := Node.eq_of_itemValues?_cons valued
      rw [Node.conformItems, here node first, ih rest others]
      rfl
  simp only [Node.conform, Node.shallow_of_not_deep, read]
  rfl

theorem Conforms.ne_null {shape : Shape} {value settled : Value}
    (conforms : Conforms o shape value settled) : value ≠ .null := by
  rintro rfl
  have read := conforms (.null ⟨0, 0⟩) rfl
  rw [Node.conform] at read
  cases shape <;> cases o <;> cases read

end

/-! ### Records -/

def Member.standIn? (field : Member Shape) : Option Value :=
  match field.need with
  | .required => none
  | .optional => some .null
  | .instead value => some value

def Takes (o : Origin) (field : Member Shape) (value settled : Value) : Prop :=
  ∀ node : Node, node.value? = some value →
    field.isAbsent node = true ∧ settled = .null ∨
      field.isAbsent node = false ∧ node.conform o field.shape = .ok settled

theorem takes_of_conforms {o : Origin} {field : Member Shape} {value settled : Value}
    (conforms : Conforms o field.shape value settled) : Takes o field value settled := by
  intro node holds
  have present : field.isAbsent node = false := by
    cases node with
    | null span =>
      cases holds
      exact absurd rfl conforms.ne_null
    | _ => rfl
  exact .inr ⟨present, conforms node holds⟩

theorem takes_null {o : Origin} {field : Member Shape} (optional : field.need = .optional) :
    Takes o field .null .null := by
  intro node holds
  obtain ⟨span, rfl⟩ := Node.eq_of_value?_null holds
  exact .inl ⟨by rw [Member.isAbsent, optional], rfl⟩

inductive Aligned (o : Origin) : List (Member Shape) → List (String × Value) → Found → List Value →
    Prop where
  | nil : Aligned o [] [] [] []
  | given {field : Member Shape} {fields : List (Member Shape)} {value settled : Value}
    {known : List (String × Value)} {found : Found} {values : List Value}
    (takes : Takes o field value settled) (others : Aligned o fields known found values) :
    Aligned o (field :: fields) ((field.name, value) :: known) ((field.name, settled) :: found)
      (settled :: values)
  | leftOut {field : Member Shape} {fields : List (Member Shape)} {known : List (String × Value)}
    {settled : Value} {found : Found} {values : List Value}
    (stands : field.standIn? = some settled) (others : Aligned o fields known found values) :
    Aligned o (field :: fields) known found (settled :: values)

def fieldNames (fields : List (Member Shape)) : List String :=
  fields.map (·.name)

theorem find?_of_nodup {α : Type} {name : α → String} {items : List α}
    (distinct : (items.map name).Nodup) {item : α} (listed : item ∈ items) :
    items.find? (fun other => name other == name item) = some item := by
  induction items with
  | nil => cases listed
  | cons first items ih =>
    obtain ⟨fresh, distinct⟩ := List.nodup_cons.mp distinct
    obtain rfl | later := List.mem_cons.mp listed
    · simp
    · have other : name first ≠ name item := by
        intro same
        exact fresh (List.mem_map.mpr ⟨item, later, same.symm⟩)
      simpa [List.find?_cons, other] using ih distinct later

theorem find?_field {fields : List (Member Shape)} (distinct : (fieldNames fields).Nodup)
    {field : Member Shape} (listed : field ∈ fields) :
    fields.find? (fun other => other.name == field.name) = some field :=
  find?_of_nodup distinct listed

theorem lookup_of_mem {found : Found} (distinct : (found.map (·.1)).Nodup) {name : String}
    {value : Value} (listed : (name, value) ∈ found) : found.lookup name = some value := by
  induction found with
  | nil => cases listed
  | cons first found ih =>
    obtain ⟨fresh, distinct⟩ := List.nodup_cons.mp distinct
    obtain rfl | later := List.mem_cons.mp listed
    · exact List.lookup_cons_self
    · have other : (name == first.1) = false := by
        rw [beq_eq_false_iff_ne]
        intro same
        exact fresh (List.mem_map.mpr ⟨(name, value), later, same⟩)
      rw [List.lookup_cons, other]
      exact ih distinct later

theorem lookup_perm {found other : Found} (same : found.Perm other)
    (distinct : (found.map (·.1)).Nodup) (name : String) :
    found.lookup name = other.lookup name := by
  cases listed : found.lookup name with
  | some value =>
    have member : (name, value) ∈ found := by
      obtain ⟨before, after, rfl, _⟩ := List.lookup_eq_some_iff.mp listed
      simp
    have distinct' : (other.map (·.1)).Nodup := (same.map _).nodup_iff.mp distinct
    exact (lookup_of_mem distinct' (same.mem_iff.mp member)).symm
  | none =>
    rw [List.lookup_eq_none_iff] at listed
    symm
    rw [List.lookup_eq_none_iff]
    intro member others
    exact listed member (same.mem_iff.mpr others)

section
variable {o : Origin} {fields : List (Member Shape)} {known : List (String × Value)}
  {found : Found} {values : List Value} (aligned : Aligned o fields known found values)
include aligned

theorem Aligned.names : known.map (·.1) = found.map (·.1) := by
  induction aligned with
  | nil => rfl
  | given _ _ ih => rw [List.map_cons, List.map_cons, ih]
  | leftOut _ _ ih => exact ih

theorem Aligned.sublist : (found.map (·.1)).Sublist (fieldNames fields) := by
  induction aligned with
  | nil => exact .slnil
  | given _ _ ih => exact ih.cons_cons _
  | leftOut _ _ ih => exact ih.cons _

theorem Aligned.takes {member : String × Value} (listed : member ∈ known) :
    ∃ field ∈ fields, field.name = member.1 ∧
      ∃ settled, (member.1, settled) ∈ found ∧ Takes o field member.2 settled := by
  induction aligned with
  | nil => cases listed
  | given takes _ ih =>
    obtain rfl | later := List.mem_cons.mp listed
    · exact ⟨_, List.mem_cons_self, rfl, _, List.mem_cons_self, takes⟩
    · obtain ⟨field, field_listed, named, settled, settled_listed, takes⟩ := ih later
      exact ⟨field, List.mem_cons_of_mem _ field_listed, named, settled,
        List.mem_cons_of_mem _ settled_listed, takes⟩
  | leftOut _ _ ih =>
    obtain ⟨field, field_listed, rest⟩ := ih listed
    exact ⟨field, List.mem_cons_of_mem _ field_listed, rest⟩

/-- Whoever knows the values that were found has the values of all fields. -/
theorem Aligned.settle (distinct : (fieldNames fields).Nodup) {all : Found}
    (agrees : ∀ field ∈ fields, all.lookup field.name = found.lookup field.name)
    (place : Origin) (stop : Nat) :
    fields.mapM (Member.settle place stop all) = .ok values := by
  induction aligned with
  | nil => rfl
  | @given field fields value settled known found values takes others ih =>
    obtain ⟨fresh, distinct⟩ := List.nodup_cons.mp distinct
    have here : Member.settle place stop all field = .ok settled := by
      rw [Member.settle, agrees field List.mem_cons_self, List.lookup_cons_self]
    have later : fields.mapM (Member.settle place stop all) = .ok values := by
      apply ih distinct
      intro other listed
      have name_ne : (other.name == field.name) = false := by
        rw [beq_eq_false_iff_ne]
        intro same
        exact fresh (List.mem_map.mpr ⟨other, listed, same⟩)
      rw [agrees other (List.mem_cons_of_mem _ listed), List.lookup_cons, name_ne]
    rw [List.mapM_cons, here, later]
    rfl
  | @leftOut field fields known settled found values stands others ih =>
    obtain ⟨fresh, distinct⟩ := List.nodup_cons.mp distinct
    have unknown : found.lookup field.name = none := by
      rw [List.lookup_eq_none_iff]
      intro member listed
      rw [bne_iff_ne]
      intro same
      exact fresh (others.sublist.subset (List.mem_map.mpr ⟨member, listed, same.symm⟩))
    have here : Member.settle place stop all field = .ok settled := by
      rw [Member.settle, agrees field List.mem_cons_self, unknown]
      cases need : field.need with
      | required => simp [Member.standIn?, need] at stands
      | optional => simp_all [Member.standIn?]
      | instead value => simp_all [Member.standIn?]
    have later : fields.mapM (Member.settle place stop all) = .ok values := by
      apply ih distinct
      intro other listed
      exact agrees other (List.mem_cons_of_mem _ listed)
    rw [List.mapM_cons, here, later]
    rfl

end

def foundFor (found : Found) (member : String × Value) : Option (String × Value) :=
  (found.lookup member.1).map (Prod.mk member.1)

def Accounted (o : Origin) (fields : List (Member Shape)) (found : Found)
    (member : String × Value) : Prop :=
  match fields.find? (fun field => field.name == member.1) with
  | some field => ∃ settled, found.lookup member.1 = some settled ∧ Takes o field member.2 settled
  | none => found.lookup member.1 = none

/-- The values are found in the order of the members, each in front of those before it. -/
theorem conformMembers_eq {o : Origin} {fields : List (Member Shape)} {found : Found} :
    (nodes : List (Key × Node)) → {members : List (String × Value)} →
    Node.memberValues? nodes = some members → (earlier : Found) →
    (∀ member ∈ members, Accounted o fields found member) →
    ((members.filterMap (foundFor found)).map (·.1) ++ earlier.map (·.1)).Nodup →
    Node.conformMembers o fields earlier nodes =
      .ok ((members.filterMap (foundFor found)).reverse ++ earlier)
  | [], _, holds, earlier, _, _ => by
    cases holds
    rfl
  | (key, node) :: rest, members, holds, earlier, accounted, once => by
    obtain ⟨value, others, unharmed, valued, values, rfl⟩ := Node.memberValues?_cons holds
    have here := accounted _ List.mem_cons_self
    have later : ∀ member ∈ others, Accounted o fields found member := by
      intro member listed
      exact accounted member (List.mem_cons_of_mem _ listed)
    unfold Accounted at here
    rw [Node.conformMembers, unharmed]
    -- A member of the record joins what was found before it; any other one is passed over.
    cases known : fields.find? (fun field => field.name == key.name) with
    | some field =>
      simp only [known] at here
      obtain ⟨settled, listed, takes⟩ := here
      have entered : foundFor found (key.name, value) = some (key.name, settled) := by
        rw [foundFor, listed]
        rfl
      rw [List.filterMap_cons_some entered] at once ⊢
      obtain ⟨fresh, once⟩ := List.nodup_cons.mp once
      have unseen : earlier.lookup key.name = none := by
        rw [List.lookup_eq_none_iff]
        intro member entered
        rw [bne_iff_ne]
        intro same
        exact fresh (List.mem_append_right _ (List.mem_map.mpr ⟨member, entered, same.symm⟩))
      have once' : ((others.filterMap (foundFor found)).map (·.1) ++
          ((key.name, settled) :: earlier).map (·.1)).Nodup := by
        rw [List.map_cons, List.nodup_middle]
        exact List.nodup_cons.mpr ⟨fresh, once⟩
      have onward := conformMembers_eq rest values ((key.name, settled) :: earlier) later once'
      rw [List.reverse_cons, List.append_assoc, List.singleton_append, ← onward]
      obtain ⟨absent, rfl⟩ | ⟨present, read⟩ := takes node valued
      · simp [unseen, absent]
      · simp only [unseen, present, read, Option.isSome_none, Bool.false_eq_true, if_false]
        rfl
    | none =>
      simp only [known] at here
      have skipped : foundFor found (key.name, value) = none := by
        rw [foundFor, here]
        rfl
      rw [List.filterMap_cons_none skipped] at once ⊢
      have onward := conformMembers_eq rest values earlier later once
      rw [← onward]
      have harmless := (Node.faultless node valued).2
      simp [harmless]

section
variable {o : Origin} {fields : List (Member Shape)} {known others members : List (String × Value)}
  {found : Found} {values : List Value} (distinct : (fieldNames fields).Nodup)
  (aligned : Aligned o fields known found values) (order : members.Perm (known ++ others))
  (foreign : ∀ member ∈ others, member.1 ∉ fieldNames fields)
include distinct aligned order foreign

theorem accounted_of_perm : ∀ member ∈ members, Accounted o fields found member := by
  intro member listed
  have distinct_found : (found.map (·.1)).Nodup := distinct.sublist aligned.sublist
  unfold Accounted
  obtain written | other := List.mem_append.mp (order.mem_iff.mp listed)
  · obtain ⟨field, field_listed, named, settled, entered, takes⟩ := aligned.takes written
    rw [← named, find?_field distinct field_listed]
    exact ⟨settled, lookup_of_mem distinct_found (named ▸ entered), takes⟩
  · have unnamed := foreign member other
    have missed : fields.find? (fun field => field.name == member.1) = none := by
      rw [List.find?_eq_none]
      intro field field_listed
      rw [beq_iff_eq]
      intro same
      exact unnamed (List.mem_map.mpr ⟨field, field_listed, same⟩)
    rw [missed]
    rw [List.lookup_eq_none_iff]
    intro entry entered
    rw [bne_iff_ne]
    intro same
    exact unnamed (aligned.sublist.subset (List.mem_map.mpr ⟨entry, entered, same.symm⟩))

theorem filterMap_foundFor_perm : (members.filterMap (foundFor found)).Perm found := by
  have distinct_found : (found.map (·.1)).Nodup := distinct.sublist aligned.sublist
  -- The names of the members decide, and those that are written for fields have the found names.
  have none_other : others.filterMap (foundFor found) = [] := by
    rw [List.filterMap_eq_nil_iff]
    intro member listed
    rw [foundFor, Option.map_eq_none_iff, List.lookup_eq_none_iff]
    intro entry entered
    rw [bne_iff_ne]
    intro same
    exact foreign member listed
      (aligned.sublist.subset (List.mem_map.mpr ⟨entry, entered, same.symm⟩))
  have all_known : known.filterMap (foundFor found) = found := by
    let named (name : String) := (found.lookup name).map (Prod.mk name)
    calc known.filterMap (foundFor found)
        = (known.map (·.1)).filterMap named := by
          rw [List.filterMap_map]
          rfl
      _ = (found.map (·.1)).filterMap named := by rw [aligned.names]
      _ = found.filterMap (foundFor found) := List.filterMap_map
      _ = found.filterMap some := by
        apply List.filterMap_congr
        intro entry entered
        rw [foundFor, lookup_of_mem distinct_found entered]
        rfl
      _ = found := List.filterMap_some
  have same := order.filterMap (foundFor found)
  rwa [List.filterMap_append, none_other, List.append_nil, all_known] at same

/-- The members of a record may stand in any order and among others, and fields may be left out. -/
theorem conformMembers_of_perm {nodes : List (Key × Node)}
    (holds : Node.memberValues? nodes = some members) :
    ∃ all, Node.conformMembers o fields [] nodes = .ok all ∧
      ∀ place stop, fields.mapM (Member.settle place stop all) = .ok values := by
  have same := filterMap_foundFor_perm distinct aligned order foreign
  have distinct_found : (found.map (·.1)).Nodup := distinct.sublist aligned.sublist
  have once : ((members.filterMap (foundFor found)).map (·.1) ++ ([] : Found).map (·.1)).Nodup := by
    rw [List.map_nil, List.append_nil]
    exact (same.map _).nodup_iff.mpr distinct_found
  refine ⟨_, conformMembers_eq nodes holds []
    (accounted_of_perm distinct aligned order foreign) once, ?_⟩
  apply aligned.settle distinct
  intro field listed
  rw [List.append_nil]
  have same' : found.Perm (members.filterMap (foundFor found)).reverse :=
    (same.symm).trans (List.reverse_perm _).symm
  exact (lookup_perm same' distinct_found field.name).symm

theorem conforms_record (title : String) :
    Conforms o (.record title fields) (.object members) (.list values) := by
  intro node holds
  obtain ⟨start, nodes, stop, rfl, valued⟩ := Node.eq_of_value?_object holds
  obtain ⟨all, read, settled⟩ := conformMembers_of_perm distinct aligned order foreign valued
  simp only [Node.conform, Node.shallow_of_not_deep, read, Ending.stop, bind, Except.bind]
  rw [settled o stop]
  rfl

end

end Vouch.Json
