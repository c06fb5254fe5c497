import Mathlib.Tactic
import Vouch.Proofs.Json.Revision

/-!
Records that are one of several things.

A merged record keeps its own fields, the name of a variant and the fields of the variant in one
object: which member belongs to whom is told by the names alone, if no two of them are the same.  A
paired union keeps the name of the variant and its content in two members.
-/

namespace Vouch.Json

open Node

/-! ### Members by their names -/

theorem memberValues?_filter (picked : String → Bool) {nodes : List (Key × Node)}
    {members : List (String × Value)} (holds : memberValues? nodes = some members) :
    memberValues? (nodes.filter fun member => picked member.1.name) =
      some (members.filter fun member => picked member.1) := by
  induction nodes generalizing members with
  | nil =>
    cases holds
    rfl
  | cons first rest ih =>
    obtain ⟨key, node⟩ := first
    obtain ⟨value, others, unharmed, valued, values, rfl⟩ := memberValues?_cons holds
    have later := ih values
    by_cases pick : picked key.name = true
    · simp [pick, memberValues?, unharmed, valued, later]
    · simp [pick, later]

theorem filter_name_eq {nodes : List (Key × Node)} {name : String} {value : Value}
    {members others : List (String × Value)} (holds : memberValues? nodes = some members)
    (order : members.Perm ((name, value) :: others)) (alone : ∀ member ∈ others, member.1 ≠ name) :
    ∃ key node, nodes.filter (fun member => member.1.name == name) = [(key, node)] ∧
      node.value? = some value := by
  have none_other : others.filter (fun member => member.1 == name) = [] := by
    rw [List.filter_eq_nil_iff]
    intro member listed
    simpa using alone member listed
  have picked := order.filter fun member => member.1 == name
  rw [List.filter_cons_of_pos (by simp), none_other, List.perm_singleton] at picked
  have valued := memberValues?_filter (fun other => other == name) holds
  rw [picked] at valued
  obtain ⟨key, node, single, -, -, valued⟩ := eq_of_memberValues?_singleton valued
  exact ⟨key, node, single, valued⟩

/-! ### Merged records -/

theorem Aligned.mem_fieldNames {o : Origin} {fields : List (Member Shape)}
    {known : List (String × Value)} {found : Found} {values : List Value}
    (aligned : Aligned o fields known found values) {member : String × Value}
    (given : member ∈ known) : member.1 ∈ fieldNames fields := by
  obtain ⟨field, listed, named, -⟩ := aligned.takes given
  exact named ▸ List.mem_map_of_mem listed

theorem conformOwn_eq_conformMembers {fields : List (Member Shape)} {nodes : List (Key × Node)}
    {members : List (String × Value)} (holds : memberValues? nodes = some members)
    (found : Found) :
    conformOwn fields found nodes = conformMembers .written fields found nodes := by
  induction nodes generalizing members found with
  | nil => rfl
  | cons first rest ih =>
    obtain ⟨key, node⟩ := first
    obtain ⟨value, others, unharmed, valued, values, rfl⟩ := memberValues?_cons holds
    obtain ⟨kept, passed⟩ := faultless node valued
    rw [conformOwn, conformMembers, unharmed]
    cases fields.find? (fun field => field.name == key.name) with
    | some field => simp only [ih values]
    | none => simp [kept, passed, ih values]

theorem variantIndex_text {variants : List (Variant Shape)}
    (distinct : (variants.map (·.name)).Nodup) {variant : Variant Shape}
    (listed : variant ∈ variants) (span : Span) :
    ∃ i, variantIndex (variants.map (·.name)) (.text variant.name span) = .ok i ∧
      variants[i]? = some variant := by
  obtain ⟨i, bound, rfl⟩ := List.mem_iff_getElem.mp listed
  have first : (variants.map (·.name)).idxOf? variants[i].name = some i := by
    rw [List.idxOf?_eq_some_iff]
    have bound_name : i < (variants.map (·.name)).length := by rwa [List.length_map]
    refine ⟨bound_name, List.getElem_map _, fun j before same => ?_⟩
    have both : (variants.map (·.name))[j] = (variants.map (·.name))[i] := by
      rw [same, List.getElem_map]
    exact before.ne (distinct.getElem_inj_iff.mp both)
  exact ⟨i, by rw [variantIndex, first], List.getElem?_eq_getElem bound⟩

theorem conforms_merged {o : Origin} {title tag : String} {own : List (Member Shape)}
    {variants : List (Variant Shape)} {variant : Variant Shape}
    {known more members : List (String × Value)} {found extra : Found} {values settled : List Value}
    (names : (variants.map (·.name)).Nodup) (listed : variant ∈ variants)
    (distinct : (tag :: fieldNames own ++ fieldNames variant.fields).Nodup)
    (aligned : Aligned .written own known found values)
    (aligned_variant : Aligned .kept variant.fields more extra settled)
    (order : members.Perm (known ++ (tag, .text variant.name) :: more)) :
    Conforms o (.merged title own tag variants) (.object members)
      (.list (values ++ .text variant.name :: settled)) := by
  intro node holds
  obtain ⟨start, nodes, stop, rfl, valued⟩ := eq_of_value?_object holds
  obtain ⟨untagged, distinct⟩ := List.nodup_cons.mp distinct
  obtain ⟨distinct_own, distinct_variant, apart⟩ := List.nodup_append.mp distinct
  -- What belongs to the record itself, with the rest set aside.
  have foreign : ∀ member ∈ (tag, .text variant.name) :: more, member.1 ∉ fieldNames own := by
    intro member given owned
    obtain rfl | given := List.mem_cons.mp given
    · exact untagged (List.mem_append_left _ owned)
    · exact apart _ owned _ (aligned_variant.mem_fieldNames given) rfl
  obtain ⟨all, read, settle⟩ := conformMembers_of_perm distinct_own aligned order foreign valued
  rw [← conformOwn_eq_conformMembers valued] at read
  -- The tag.
  have moved : members.Perm ((tag, .text variant.name) :: (known ++ more)) :=
    order.trans List.perm_middle
  have alone : ∀ member ∈ known ++ more, member.1 ≠ tag := by
    rintro member given rfl
    obtain given | given := List.mem_append.mp given
    · exact untagged (List.mem_append_left _ (aligned.mem_fieldNames given))
    · exact untagged (List.mem_append_right _ (aligned_variant.mem_fieldNames given))
  obtain ⟨key, named, tagged, name⟩ := filter_name_eq valued moved alone
  obtain ⟨span, rfl⟩ := eq_of_value?_text name
  obtain ⟨i, index, found_variant⟩ := variantIndex_text names listed span
  -- What belongs to the variant.
  have order_variant : members.Perm (more ++ (tag, .text variant.name) :: known) :=
    moved.trans ((List.perm_append_comm.cons _).trans List.perm_middle.symm)
  have foreign_variant : ∀ member ∈ (tag, .text variant.name) :: known,
      member.1 ∉ fieldNames variant.fields := by
    intro member given owned
    obtain rfl | given := List.mem_cons.mp given
    · exact untagged (List.mem_append_right _ owned)
    · exact apart _ (aligned.mem_fieldNames given) _ owned rfl
  obtain ⟨rest, read_variant, settle_variant⟩ :=
    conformMembers_of_perm distinct_variant aligned_variant order_variant foreign_variant valued
  simp only [conform, shallow_of_not_deep, read, Ending.stop, settle .written stop, tagged, index,
    found_variant, read_variant, settle_variant .written stop, bind, Except.bind, pure, Except.pure]

theorem settles_merged {o : Origin} {leeway : Leeway} {title tag : String}
    {own : List (Member Shape)} {variants : List (Variant Shape)} {variant : Variant Shape}
    {known more : List (String × Value)} {values settled : List Value}
    (names : (variants.map (·.name)).Nodup) (listed : variant ∈ variants)
    (distinct : (tag :: fieldNames own ++ fieldNames variant.fields).Nodup)
    (entries : Entries .written .none own known values)
    (entries_variant : Entries .kept .none variant.fields more settled) :
    Settles o leeway (.merged title own tag variants)
      (.object (known ++ (tag, .text variant.name) :: more))
      (.list (values ++ .text variant.name :: settled)) := by
  intro revision revised
  cases revised
  obtain ⟨distinct_own, distinct_variant, -⟩ :=
    List.nodup_append.mp (List.nodup_cons.mp distinct).2
  obtain ⟨found, aligned⟩ := entries.aligned (Leeway.fits_none _) (fun _ member => member)
    distinct_own (entries.same fun _ member => member)
  obtain ⟨extra, aligned_variant⟩ := entries_variant.aligned (Leeway.fits_none _)
    (fun _ member => member) distinct_variant (entries_variant.same fun _ member => member)
  exact conforms_merged names listed distinct aligned aligned_variant (.refl _)

/-! ### Paired unions -/

namespace Paired

section
variable {union : Paired} {arm : Arm} (named : union.arm? arm.name = some arm)
include named

theorem tagName_text {node : Node} (holds : node.value? = some (.text arm.name)) :
    union.tagName node = .ok arm.name := by
  obtain ⟨span, rfl⟩ := eq_of_value?_text holds
  have listed : arm.name ∈ union.names :=
    List.mem_map_of_mem (List.mem_of_find?_eq_some named)
  rw [tagName, conformChoice, if_pos listed]
  rfl

/-- The name of a variant followed by its content. -/
theorem conform_content {shape : Shape} (full : arm.content = some shape)
    (apart : union.content ≠ union.tag) {content settled : Value}
    (conforms : Conforms .written shape content settled) {node : Node}
    (holds : node.value? =
      some (.object [(union.tag, .text arm.name), (union.content, content)])) :
    union.conform node = .ok (arm.name, settled) := by
  obtain ⟨start, nodes, stop, rfl, valued⟩ := eq_of_value?_object holds
  obtain ⟨key, tag, other, part, rfl, ⟨tagged, labelled⟩, ⟨unharmed, unharmed_other⟩, name, valued⟩ :=
    eq_of_memberValues?_pair valued
  have read := tagName_text named name
  have content_read : union.contentOf .written arm.name part = .ok settled := by
    rw [contentOf, named, ← conforms part valued]
    obtain ⟨_, _, _⟩ := arm
    cases full
    rfl
  simp [conform, shallow_of_not_deep, members, unharmed, tagged, read, afterTag, unharmed_other,
    labelled, apart, content_read, nothingTwice, Ending.stop, bind, Except.bind,
    pure, Except.pure]

theorem conform_plain (empty : arm.content = none) {node : Node}
    (holds : node.value? = some (.object [(union.tag, .text arm.name)])) :
    union.conform node = .ok (arm.name, .null) := by
  obtain ⟨start, nodes, stop, rfl, valued⟩ := eq_of_value?_object holds
  obtain ⟨key, tag, rfl, tagged, unharmed, name⟩ := eq_of_memberValues?_singleton valued
  have without : union.withoutContent stop arm.name = .ok .null := by
    rw [withoutContent, named, Option.bind_some, empty]
  have read := tagName_text named name
  simp [conform, shallow_of_not_deep, members, unharmed, tagged, read, afterTag, Ending.stop,
    without, bind, Except.bind, pure, Except.pure]

end

end Paired

end Vouch.Json
