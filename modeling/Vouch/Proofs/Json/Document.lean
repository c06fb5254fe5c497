import Mathlib.Tactic
import Vouch.Json.Part
import Vouch.Proofs.Json.Revision

/-!
Whole documents that are read back.

A part *carries* a thing if all its revisions settle to a value that stands for the thing.  Parts of
records carry what their fields do, and a document whose root carries a thing is read as it.
-/

namespace Vouch.Json

/-! ### Tagged unions -/

namespace Tagged

section
variable {union : Tagged} {variant : Variant Shape}

theorem variantAmong_untagged {found : Option (Variant Shape)} :
    (nodes : List (Key × Node)) → {members : List (String × Value)} →
    Node.memberValues? nodes = some members → (∀ member ∈ members, member.1 ≠ union.tag) →
    union.variantAmong found nodes = .ok found
  | [], _, _, _ => rfl
  | (key, node) :: rest, members, holds, untagged => by
    obtain ⟨value, others, unharmed, valued, values, rfl⟩ := Node.memberValues?_cons holds
    have here : (key.name == union.tag) = false :=
      beq_eq_false_iff_ne.mpr (untagged _ List.mem_cons_self)
    have later : ∀ member ∈ others, member.1 ≠ union.tag :=
      fun member listed => untagged member (List.mem_cons_of_mem _ listed)
    have harmless := (Node.faultless node valued).1
    rw [variantAmong, unharmed, here, harmless]
    exact variantAmong_untagged rest values later

theorem variantAmong_tagged
    (named : union.variants.find? (fun other => other.name == variant.name) = some variant) :
    (nodes : List (Key × Node)) → (before : List (String × Value)) →
    {after : List (String × Value)} →
    Node.memberValues? nodes = some (before ++ (union.tag, .text variant.name) :: after) →
    (∀ member ∈ before ++ after, member.1 ≠ union.tag) →
    union.variantAmong none nodes = .ok (some variant)
  | [], before, _, holds, _ => by
    cases before <;> cases holds
  | (key, node) :: rest, [], after, holds, untagged => by
    obtain ⟨value, others, unharmed, valued, values, same⟩ := Node.memberValues?_cons holds
    obtain ⟨tag, rfl⟩ := List.cons.inj same
    obtain ⟨tagged, rfl⟩ := Prod.mk.inj tag
    obtain ⟨span, rfl⟩ := Node.eq_of_value?_text valued
    have read : union.variant (.text variant.name span) = .ok variant := by
      rw [Tagged.variant, named]
    have untagged_rest : union.variantAmong (some variant) rest = .ok (some variant) :=
      variantAmong_untagged rest values untagged
    simp [variantAmong, unharmed, ← tagged, read, untagged_rest, bind, Except.bind]
  | (key, node) :: rest, member :: before, after, holds, untagged => by
    obtain ⟨value, others, unharmed, valued, values, same⟩ := Node.memberValues?_cons holds
    obtain ⟨rfl, rfl⟩ := List.cons.inj same
    have here : (key.name == union.tag) = false :=
      beq_eq_false_iff_ne.mpr (untagged _ List.mem_cons_self)
    have later : ∀ member ∈ before ++ after, member.1 ≠ union.tag :=
      fun member listed => untagged member (List.mem_cons_of_mem _ listed)
    have harmless := (Node.faultless node valued).1
    rw [variantAmong, unharmed, here, harmless]
    exact variantAmong_tagged named rest before values later

def fields (union : Tagged) (variant : Variant Shape) : List (Member Shape) :=
  ⟨union.tag, .required, .choice [variant.name]⟩ :: variant.fields

def record (union : Tagged) (variant : Variant Shape) : Shape :=
  .record union.title (union.fields variant)

theorem conform_of_revised {leeway : Leeway} {before : List (String × Value)} {values : List Value}
    (named : union.variants.find? (fun other => other.name == variant.name) = some variant)
    (distinct : (fieldNames (union.fields variant)).Nodup)
    (fits : leeway.Fits (union.fields variant))
    (entries : Entries .kept leeway variant.fields before values) {revision : Value}
    (revised : Revised leeway (union.record variant)
      (.object ((union.tag, .text variant.name) :: before)) revision)
    {node : Node} (holds : node.value? = some revision) :
    union.conform node = .ok (variant.name, .list values) := by
  obtain ⟨fresh, distinct_fields⟩ := List.nodup_cons.mp distinct
  have inner : RevisedMembers leeway (union.fields variant) before before :=
    entries.same fun _ listed => List.mem_cons_of_mem _ listed
  obtain ⟨kept, added, after, rfl, members, foreign, order⟩ :=
    revised.members (.kept List.mem_cons_self .same inner)
  -- The tag has no stand-in, so it is kept as it is.
  obtain ⟨others, rfl, later⟩ : ∃ others, kept = (union.tag, .text variant.name) :: others ∧
      RevisedMembers leeway (union.fields variant) before others := by
    obtain ⟨field, listed, same, ⟨value', others, rfl, first, later⟩ | ⟨spared, _⟩⟩ :=
      members.first
    · obtain rfl := eq_of_name_eq distinct List.mem_cons_self listed same
      cases first
      exact ⟨others, rfl, later⟩
    · obtain rfl := eq_of_name_eq distinct List.mem_cons_self listed same
      cases fits _ listed _ spared
  obtain ⟨found, aligned⟩ := entries.aligned fits
    (fun _ listed => List.mem_cons_of_mem _ listed) distinct later
  obtain ⟨start, nodes, stop, rfl, valued⟩ := Node.eq_of_value?_object holds
  have tagged : union.variantAmong none nodes = .ok (some variant) := by
    have listed : (union.tag, .text variant.name) ∈ after := order.mem_iff.mpr List.mem_cons_self
    obtain ⟨front, back, rfl⟩ := List.append_of_mem listed
    have rest : (front ++ back).Perm (others ++ added) :=
      (List.perm_middle.symm.trans order).cons_inv
    refine variantAmong_tagged named nodes front valued fun member listed same => ?_
    obtain old | new := List.mem_append.mp (rest.mem_iff.mp listed)
    · have name_listed : member.1 ∈ others.map (·.1) := List.mem_map.mpr ⟨member, old, rfl⟩
      rw [aligned.names, same] at name_listed
      exact fresh (aligned.sublist.subset name_listed)
    · exact foreign member new (same ▸ List.mem_cons_self)
  have foreign' : ∀ member ∈ (union.tag, .text variant.name) :: added,
      member.1 ∉ fieldNames variant.fields := by
    intro member listed
    obtain rfl | new := List.mem_cons.mp listed
    · exact fresh
    · exact fun known => foreign member new (List.mem_cons_of_mem _ known)
  obtain ⟨all, read, settled⟩ := conformMembers_of_perm distinct_fields aligned
    (order.trans List.perm_middle.symm) foreign' valued
  simp only [conform, Node.shallow_of_not_deep, tagged, read, Ending.stop, bind, Except.bind]
  rw [settled .kept 0]
  rfl

end

end Tagged

/-! ### Documents -/

namespace Document

section
variable {value : Value} {text : String} (written : DocumentText value text.toList)
  (within : value.Within Node.depthLimit)
include written within

theorem decode_of_text {α : Type} {shape : Shape} {ofValue? : Value → Option α} {settled : Value}
    {a : α} (conforms : Conforms .written shape value settled) (stands : ofValue? settled = some a) :
    decode shape ofValue? text = .ok a := by
  obtain ⟨root, read, holds⟩ := read_of_text written within
  rw [decode, read, Document.conform, whole, conforms root holds]
  simp only [bind, Except.bind, pure, Except.pure, stands]

theorem decodeTagged_of_text {α : Type} {union : Tagged} {ofRecord? : String → Value → Option α}
    {name : String} {record : Value} {a : α}
    (conforms : ∀ node : Node, node.value? = some value → union.conform node = .ok (name, record))
    (stands : ofRecord? name record = some a) : decodeTagged union ofRecord? text = .ok a := by
  obtain ⟨root, read, holds⟩ := read_of_text written within
  rw [decodeTagged, read, conformTagged, whole, conforms root holds]
  simp only [bind, Except.bind, pure, Except.pure, stands]

theorem decodePaired_of_text {α : Type} {union : Paired} {ofContent? : String → Value → Option α}
    {name : String} {content : Value} {a : α}
    (conforms : ∀ node : Node, node.value? = some value → union.conform node = .ok (name, content))
    (stands : ofContent? name content = some a) : decodePaired union ofContent? text = .ok a := by
  obtain ⟨root, read, holds⟩ := read_of_text written within
  rw [decodePaired, read, conformPaired, whole, conforms root holds]
  simp only [bind, Except.bind, pure, Except.pure, stands]

end

theorem decodeTagged_of_revised {α : Type} {union : Tagged} {variant : Variant Shape}
    {ofRecord? : String → Value → Option α} {leeway : Leeway} {members : List (String × Value)}
    {values : List Value} {a : α}
    (named : union.variants.find? (fun other => other.name == variant.name) = some variant)
    (distinct : (fieldNames (union.fields variant)).Nodup)
    (fits : leeway.Fits (union.fields variant))
    (entries : Entries .kept leeway variant.fields members values)
    (stand : ofRecord? variant.name (.list values) = some a) {depth : Nat}
    (within : ∀ member ∈ members, member.2.Within depth)
    (room : depth + 1 + leeway.levels ≤ Node.depthLimit) {revision : Value} {text : String}
    (revised : Revised leeway (union.record variant)
      (.object ((union.tag, .text variant.name) :: members)) revision)
    (written : DocumentText revision text.toList) : decodeTagged union ofRecord? text = .ok a := by
  have shallow : (Value.object ((union.tag, .text variant.name) :: members)).Within (depth + 1) := by
    refine .object fun member listed => ?_
    obtain rfl | later := List.mem_cons.mp listed
    · exact .text _
    · exact within member later
  exact decodeTagged_of_text written ((revised.within shallow).mono room)
    (fun node holds => Tagged.conform_of_revised named distinct fits entries revised holds) stand

end Document

end Vouch.Json
