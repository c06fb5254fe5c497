import Mathlib.Tactic
import Vouch.Proofs.Json.Conform
import Vouch.Proofs.Json.Reading

/-!
Documents as older and newer writers put them.

Members may be reordered everywhere, members that the record does not have may be added, and members
may be left out as far as writers have leeway.  Where the stand-ins of the fields make good what is left
out, all revisions of a value settle to the same.
-/

namespace Vouch.Json

def Shape.blank? : Shape → Option Value
  | .text => some (.text "")
  | .flag => some (.bool false)
  | .whole .. => some (.int 0)
  | .list _ => some (.list [])
  | _ => none

def Member.default? (field : Member Shape) : Option Value :=
  match field.need with
  | .optional => some .null
  | _ => field.shape.blank?

structure Leeway where
  spare : Member Shape → Value → Prop
  levels : Nat

mutual

/-- The second value is a revision of the first one, which has the shape. -/
inductive Revised (leeway : Leeway) : Shape → Value → Value → Prop where
  | same {shape : Shape} {value : Value} : Revised leeway shape value value
  | list {item : Shape} {before after : List Value} (items : RevisedItems leeway item before after) :
    Revised leeway (.list item) (.list before) (.list after)
  | record {title : String} {fields : List (Member Shape)}
    {before kept added after : List (String × Value)}
    (members : RevisedMembers leeway fields before kept)
    (foreign : ∀ member ∈ added, member.1 ∉ fieldNames fields)
    (within : ∀ member ∈ added, member.2.Within leeway.levels) (order : after.Perm (kept ++ added)) :
    Revised leeway (.record title fields) (.object before) (.object after)

inductive RevisedItems (leeway : Leeway) : Shape → List Value → List Value → Prop where
  | nil {item : Shape} : RevisedItems leeway item [] []
  | cons {item : Shape} {value value' : Value} {before after : List Value}
    (first : Revised leeway item value value') (others : RevisedItems leeway item before after) :
    RevisedItems leeway item (value :: before) (value' :: after)

inductive RevisedMembers (leeway : Leeway) :
    List (Member Shape) → List (String × Value) → List (String × Value) → Prop where
  | nil {fields : List (Member Shape)} : RevisedMembers leeway fields [] []
  | kept {fields : List (Member Shape)} {field : Member Shape} {value value' : Value}
    {before kept : List (String × Value)} (listed : field ∈ fields)
    (revised : Revised leeway field.shape value value')
    (others : RevisedMembers leeway fields before kept) :
    RevisedMembers leeway fields ((field.name, value) :: before) ((field.name, value') :: kept)
  | leftOut {fields : List (Member Shape)} {field : Member Shape} {value : Value}
    {before kept : List (String × Value)} (listed : field ∈ fields)
    (spared : leeway.spare field value) (others : RevisedMembers leeway fields before kept) :
    RevisedMembers leeway fields ((field.name, value) :: before) kept

end

/-! ### Levels -/

theorem Value.Within.mono {levels more : Nat} {value : Value} (within : value.Within levels)
    (le : levels ≤ more) : value.Within more := by
  induction within generalizing more with
  | null => exact .null
  | bool b => exact .bool b
  | int least greatest => exact .int least greatest
  | text s => exact .text s
  | list _ ih =>
    obtain ⟨more, rfl⟩ : ∃ fewer, more = fewer + 1 := ⟨more - 1, by omega⟩
    exact .list fun item listed => ih item listed (by omega)
  | object _ ih =>
    obtain ⟨more, rfl⟩ : ∃ fewer, more = fewer + 1 := ⟨more - 1, by omega⟩
    exact .object fun member listed => ih member listed (by omega)

section
variable {leeway : Leeway}

mutual

/-- A revision nests no deeper than the value and what was added to it, one in the other. -/
theorem Revised.within {depth : Nat} : {shape : Shape} → {value value' : Value} →
    Revised leeway shape value value' → value.Within depth → value'.Within (depth + leeway.levels)
  | _, _, _, .same, within => within.mono (Nat.le_add_right depth leeway.levels)
  | _, _, _, .list items, .list inner => by
    rw [Nat.succ_add]
    exact .list (items.within inner)
  | _, _, _, .record members _ added order, .object inner => by
    rw [Nat.succ_add]
    refine .object fun member listed => ?_
    obtain old | new := List.mem_append.mp (order.mem_iff.mp listed)
    · exact members.within inner member old
    · exact (added member new).mono (Nat.le_add_left leeway.levels _)

theorem RevisedItems.within {depth : Nat} : {shape : Shape} → {items items' : List Value} →
    RevisedItems leeway shape items items' → (∀ item ∈ items, item.Within depth) →
    ∀ item ∈ items', item.Within (depth + leeway.levels)
  | _, _, _, .nil, _ => fun _ listed => absurd listed List.not_mem_nil
  | _, _, _, .cons first others, inner => by
    intro item listed
    obtain rfl | later := List.mem_cons.mp listed
    · exact first.within (inner _ List.mem_cons_self)
    · exact others.within (fun item listed => inner item (List.mem_cons_of_mem _ listed)) item later

theorem RevisedMembers.within {depth : Nat} : {fields : List (Member Shape)} →
    {before kept : List (String × Value)} → RevisedMembers leeway fields before kept →
    (∀ member ∈ before, member.2.Within depth) →
    ∀ member ∈ kept, member.2.Within (depth + leeway.levels)
  | _, _, _, .nil, _ => fun _ listed => absurd listed List.not_mem_nil
  | _, _, _, .kept _ revised others, inner => by
    intro member listed
    obtain rfl | later := List.mem_cons.mp listed
    · exact revised.within (inner _ List.mem_cons_self)
    · exact others.within (fun member listed => inner member (List.mem_cons_of_mem _ listed))
        member later
  | _, _, _, .leftOut _ _ others, inner =>
    others.within fun member listed => inner member (List.mem_cons_of_mem _ listed)

end

/-! ### Members of revisions -/

theorem RevisedMembers.first {fields : List (Member Shape)} {name : String} {value : Value}
    {before kept : List (String × Value)}
    (revised : RevisedMembers leeway fields ((name, value) :: before) kept) :
    ∃ field ∈ fields, field.name = name ∧
      ((∃ value' others, kept = (name, value') :: others ∧
          Revised leeway field.shape value value' ∧ RevisedMembers leeway fields before others) ∨
        leeway.spare field value ∧ RevisedMembers leeway fields before kept) := by
  cases revised with
  | kept listed revised others =>
    exact ⟨_, listed, rfl, .inl ⟨_, _, rfl, revised, others⟩⟩
  | leftOut listed spared others => exact ⟨_, listed, rfl, .inr ⟨spared, others⟩⟩

theorem Revised.eq_null {shape : Shape} {value : Value} (revised : Revised leeway shape .null value) :
    value = .null := by
  cases revised
  rfl

theorem eq_of_name_eq {fields : List (Member Shape)} (distinct : (fieldNames fields).Nodup)
    {field other : Member Shape} (listed : field ∈ fields) (listed' : other ∈ fields)
    (same : other.name = field.name) : other = field := by
  have found := find?_field distinct listed
  rw [← same, find?_field distinct listed'] at found
  exact Option.some.inj found

end

/-! ### What all revisions settle to -/

section
variable {o : Origin} {leeway : Leeway}

def Settles (o : Origin) (leeway : Leeway) (shape : Shape) (value settled : Value) : Prop :=
  ∀ revision, Revised leeway shape value revision → Conforms o shape revision settled

theorem Settles.conforms {shape : Shape} {value settled : Value}
    (settles : Settles o leeway shape value settled) : Conforms o shape value settled :=
  settles value .same

theorem settles_text (s : String) : Settles o leeway .text (.text s) (.text s) := by
  intro revision revised
  cases revised
  exact conforms_text s

theorem settles_stamp {s : String} {t : Time.Instant} (read : Time.Instant.read s = .ok t) :
    Settles o leeway .stamp (.text s) (.text t.text) := by
  intro revision revised
  cases revised
  exact conforms_stamp read

theorem settles_flag (b : Bool) : Settles o leeway .flag (.bool b) (.bool b) := by
  intro revision revised
  cases revised
  exact conforms_flag b

theorem settles_whole {name : String} {least greatest n : Int}
    (bounds : least ≤ n ∧ n ≤ greatest) :
    Settles o leeway (.whole name least greatest) (.int n) (.int n) := by
  intro revision revised
  cases revised
  exact conforms_whole bounds

theorem settles_choice {names : List String} {name : String} (listed : name ∈ names) :
    Settles o leeway (.choice names) (.text name) (.text name) := by
  intro revision revised
  cases revised
  exact conforms_choice listed

theorem settles_list {item : Shape} {items settled : List Value}
    (inner : List.Forall₂ (Settles o leeway item) items settled) :
    Settles o leeway (.list item) (.list items) (.list settled) := by
  intro revision revised
  cases revised with
  | same => exact conforms_list (inner.imp fun _ _ settles => settles.conforms)
  | @list _ _ after revised =>
    apply conforms_list
    induction inner generalizing after with
    | nil =>
      cases revised
      exact .nil
    | cons settles _ ih =>
      cases revised with
      | cons first others => exact .cons (settles _ first) (ih others)

inductive Entry (o : Origin) (leeway : Leeway) :
    Member Shape → List (String × Value) → Value → Prop where
  | given {field : Member Shape} {value settled : Value}
    (settles : Settles o leeway field.shape value settled)
    (spare : field.standIn? = some value → settled = value) :
    Entry o leeway field [(field.name, value)] settled
  | null {field : Member Shape} (optional : field.need = .optional) :
    Entry o leeway field [(field.name, .null)] .null
  | leftOut {field : Member Shape} {settled : Value} (stands : field.standIn? = some settled) :
    Entry o leeway field [] settled

inductive Entries (o : Origin) (leeway : Leeway) :
    List (Member Shape) → List (String × Value) → List Value → Prop where
  | nil : Entries o leeway [] [] []
  | cons {field : Member Shape} {fields : List (Member Shape)}
    {members known : List (String × Value)} {settled : Value} {values : List Value}
    (entry : Entry o leeway field members settled) (others : Entries o leeway fields known values) :
    Entries o leeway (field :: fields) (members ++ known) (settled :: values)

theorem Entries.given {field : Member Shape} {fields : List (Member Shape)} {value settled : Value}
    {known : List (String × Value)} {values : List Value}
    (entry : Entry o leeway field [(field.name, value)] settled)
    (others : Entries o leeway fields known values) :
    Entries o leeway (field :: fields) ((field.name, value) :: known) (settled :: values) :=
  .cons entry others

section
variable {fields all : List (Member Shape)} {before kept : List (String × Value)}
  {values : List Value}

theorem Entries.same (entries : Entries o leeway fields before values)
    (listed : ∀ field ∈ fields, field ∈ all) : RevisedMembers leeway all before before := by
  induction entries with
  | nil => exact .nil
  | @cons field fields members known settled values entry others ih =>
    have here := listed field List.mem_cons_self
    have later := ih fun field member => listed field (List.mem_cons_of_mem _ member)
    cases entry with
    | given => exact .kept here .same later
    | null => exact .kept here .same later
    | leftOut => exact later

def Leeway.Fits (leeway : Leeway) (fields : List (Member Shape)) : Prop :=
  ∀ field ∈ fields, ∀ value, leeway.spare field value → field.standIn? = some value

def Leeway.none : Leeway :=
  { spare := fun _ _ => False
    levels := 0 }

theorem Leeway.fits_none (fields : List (Member Shape)) : none.Fits fields :=
  fun _ _ _ spared => spared.elim

/-- The members that are kept still give each field its value. -/
theorem Entries.aligned (entries : Entries o leeway fields before values) (fits : leeway.Fits all)
    (listed : ∀ field ∈ fields, field ∈ all) (distinct : (fieldNames all).Nodup)
    (revised : RevisedMembers leeway all before kept) :
    ∃ found, Aligned o fields kept found values := by
  induction entries generalizing kept with
  | nil =>
    cases revised
    exact ⟨[], .nil⟩
  | @cons field fields members known settled values entry others ih =>
    -- Names are distinct, so a member that was kept or left out was written for this very field.
    have here := listed field List.mem_cons_self
    have inner : ∀ other ∈ fields, other ∈ all :=
      fun other member => listed other (List.mem_cons_of_mem _ member)
    cases entry with
    | given settles spare =>
      obtain ⟨other, listed', same, ⟨value', kept, rfl, first, later⟩ | ⟨spared, later⟩⟩ :=
        revised.first
      · obtain rfl := eq_of_name_eq distinct here listed' same
        obtain ⟨found, aligned⟩ := ih inner later
        exact ⟨_, .given (takes_of_conforms (settles value' first)) aligned⟩
      · obtain rfl := eq_of_name_eq distinct here listed' same
        obtain ⟨found, aligned⟩ := ih inner later
        have stands := fits _ listed' _ spared
        obtain rfl := spare stands
        exact ⟨_, .leftOut stands aligned⟩
    | null optional =>
      obtain ⟨other, listed', same, ⟨value', kept, rfl, first, later⟩ | ⟨spared, later⟩⟩ :=
        revised.first
      · obtain ⟨found, aligned⟩ := ih inner later
        rw [first.eq_null]
        exact ⟨_, .given (takes_null optional) aligned⟩
      · obtain rfl := eq_of_name_eq distinct here listed' same
        obtain ⟨found, aligned⟩ := ih inner later
        exact ⟨_, .leftOut (fits _ listed' _ spared) aligned⟩
    | leftOut stands =>
      obtain ⟨found, aligned⟩ := ih inner revised
      exact ⟨found, .leftOut stands aligned⟩

/-- What the revisions of a record look like. -/
theorem Revised.members {title : String} {revision : Value}
    (revised : Revised leeway (.record title fields) (.object before) revision)
    (refl : RevisedMembers leeway fields before before) :
    ∃ kept added after, revision = .object after ∧ RevisedMembers leeway fields before kept ∧
      (∀ member ∈ added, member.1 ∉ fieldNames fields) ∧ after.Perm (kept ++ added) := by
  cases revised with
  | same =>
    refine ⟨before, [], before, rfl, refl, ?_, by rw [List.append_nil]⟩
    exact fun _ listed => absurd listed List.not_mem_nil
  | record members foreign _ order => exact ⟨_, _, _, rfl, members, foreign, order⟩

theorem settles_record {title : String} (distinct : (fieldNames fields).Nodup)
    (fits : leeway.Fits fields) (entries : Entries o leeway fields before values) :
    Settles o leeway (.record title fields) (.object before) (.list values) := by
  intro revision revised
  have refl : RevisedMembers leeway fields before before := entries.same fun _ listed => listed
  obtain ⟨kept, added, after, rfl, members, foreign, order⟩ := revised.members refl
  obtain ⟨found, aligned⟩ := entries.aligned fits (fun _ listed => listed) distinct members
  exact conforms_record distinct aligned order foreign title

end

end

end Vouch.Json
