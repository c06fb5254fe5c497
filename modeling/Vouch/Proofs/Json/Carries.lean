import Mathlib.Tactic
import Vouch.Json.Part
import Vouch.Proofs.Json.Revision

/-!
What the parts of documents stand for.

A part carries a thing if all its revisions settle to a value that stands for the thing.  Numbers of
fixed width carry themselves, lists carry what their items do, and so do members that may be `null` or
left out.
-/

namespace Vouch.Json

/-! ### Numbers of fixed width -/

namespace Value

@[simp] theorem u32?_u32 (n : UInt32) : (u32 n).u32? = some n := by
  change (if n.toNat < UInt32.size then some (UInt32.ofNat n.toNat) else none) = some n
  rw [if_pos n.toNat_lt, UInt32.ofNat_toNat]

@[simp] theorem u64?_u64 (n : UInt64) : (u64 n).u64? = some n := by
  change (if n.toNat < UInt64.size then some (UInt64.ofNat n.toNat) else none) = some n
  rw [if_pos n.toNat_lt, UInt64.ofNat_toNat]

theorem i64_bounds (n : Int64) : Decimal.minI64 ≤ n.toInt ∧ n.toInt ≤ Decimal.maxI64 :=
  ⟨n.le_toInt, Int.le_of_lt_add_one n.toInt_lt⟩

@[simp] theorem i64?_i64 (n : Int64) : (i64 n).i64? = some n := by
  rw [i64, i64?, if_pos (i64_bounds n), Int64.ofInt_toInt]

@[simp] theorem nat?_nat (n : Nat) : (nat n).nat? = some n := rfl

theorem optional?_of_ne_null {α : Type} {value : Value} (present : value ≠ .null)
    (part : Value → Option α) : value.optional? part = (part value).map some := by
  cases value with
  | null => exact absurd rfl present
  | _ => rfl

end Value

section
variable {o : Origin} {leeway : Leeway}

theorem settles_u32 (n : UInt32) : Settles o leeway .u32 (.u32 n) (.u32 n) := by
  apply settles_whole
  have greatest := n.toNat_lt
  change (0 : Int) ≤ n.toNat ∧ (n.toNat : Int) ≤ (4294967295 : Nat)
  omega

theorem settles_nat {n : Nat} (bound : n ≤ Decimal.maxU64) :
    Settles o leeway .usize (.nat n) (.nat n) := by
  apply settles_whole
  omega

theorem settles_u64 (n : UInt64) : Settles o leeway .usize (.u64 n) (.u64 n) := by
  apply settles_nat
  have greatest := n.toNat_lt
  change n.toNat ≤ 18446744073709551615
  omega

theorem settles_i64 (n : Int64) : Settles o leeway .i64 (.i64 n) (.i64 n) :=
  settles_whole (Value.i64_bounds n)

/-! ### Parts -/

def Carries {α : Type} (o : Origin) (leeway : Leeway) (shape : Shape) (part : Value → Option α)
    (value : Value) (a : α) : Prop :=
  ∃ settled, Settles o leeway shape value settled ∧ settled ≠ .null ∧ part settled = some a

theorem carries_text (s : String) : Carries o leeway .text Value.text? (.text s) s :=
  ⟨.text s, settles_text s, nofun, rfl⟩

theorem carries_stamp {t : Time.Instant} (read : Time.Instant.read t.text = .ok t) :
    Carries o leeway .stamp Value.instant? (.text t.text) t := by
  refine ⟨.text t.text, settles_stamp read, nofun, ?_⟩
  rw [Value.instant?, read]
  rfl

/-- One of several things that have different names. -/
theorem settles_name {α : Type} {all : List α} (name : α → String) {a : α} (listed : a ∈ all) :
    Settles o leeway (.choice (all.map name)) (.text (name a)) (.text (name a)) :=
  settles_choice (List.mem_map_of_mem listed)

/-! ### Members -/

section
variable {field : Member Shape} {value settled : Value}

/-- A value that settles to itself is told by no more than itself, also when it is the stand-in. -/
theorem entry_same (settles : Settles o leeway field.shape value value) :
    Entry o leeway field [(field.name, value)] value :=
  .given settles fun _ => rfl

theorem entry_required (required : field.need = .required)
    (settles : Settles o leeway field.shape value settled) :
    Entry o leeway field [(field.name, value)] settled := by
  refine .given settles fun stands => ?_
  rw [Member.standIn?, required] at stands
  cases stands

theorem entry_optional (optional : field.need = .optional)
    (settles : Settles o leeway field.shape value settled) :
    Entry o leeway field [(field.name, value)] settled := by
  refine .given settles fun stands => ?_
  rw [Member.standIn?, optional] at stands
  cases stands
  exact absurd rfl settles.conforms.ne_null

end

section
variable {α : Type} {shape : Shape} {part : Value → Option α} {toValue : α → Value}

theorem entry_some (name : String) {a : α} (carries : Carries o leeway shape part (toValue a) a) :
    ∃ settled, Entry o leeway ⟨name, .optional, shape⟩ [(name, toValue a)] settled ∧
      settled.optional? part = some (some a) := by
  obtain ⟨settled, settles, present, stands⟩ := carries
  refine ⟨settled, entry_optional rfl settles, ?_⟩
  rw [Value.optional?_of_ne_null present, stands]
  rfl

theorem entry_member? (name : String) {a : Option α}
    (each : ∀ b ∈ a, Carries o leeway shape part (toValue b) b) :
    ∃ settled, Entry o leeway ⟨name, .optional, shape⟩ (Value.member? name toValue a) settled ∧
      settled.optional? part = some a := by
  cases a with
  | none => exact ⟨.null, .leftOut rfl, rfl⟩
  | some a => exact entry_some name (each a rfl)

theorem entry_orNull (name : String) {a : Option α}
    (each : ∀ b ∈ a, Carries o leeway shape part (toValue b) b) :
    ∃ settled, Entry o leeway ⟨name, .optional, shape⟩ [(name, Value.orNull toValue a)] settled ∧
      settled.optional? part = some a := by
  cases a with
  | none => exact ⟨.null, .null rfl, rfl⟩
  | some a => exact entry_some name (each a rfl)

theorem settles_items : (items : List α) →
    (∀ a ∈ items, Carries o leeway shape part (toValue a) a) →
    ∃ settled, List.Forall₂ (Settles o leeway shape) (items.map toValue) settled ∧
      settled.mapM part = some items
  | [], _ => ⟨[], .nil, rfl⟩
  | item :: rest, each => by
    obtain ⟨first, settles, _, stands⟩ := each item List.mem_cons_self
    obtain ⟨others, settle, stand⟩ :=
      settles_items rest fun a listed => each a (List.mem_cons_of_mem _ listed)
    refine ⟨first :: others, .cons settles settle, ?_⟩
    rw [List.mapM_cons, stands, stand]
    rfl

/-- A list that must be given, or that is empty when it is left out. -/
theorem entry_list (name : String) {need : Need} (known : need = .required ∨ need = .instead (.list []))
    {items : List α} (each : ∀ a ∈ items, Carries o leeway shape part (toValue a) a) :
    ∃ settled, Entry o leeway ⟨name, need, .list shape⟩ [(name, .list (items.map toValue))] settled ∧
      settled.list? part = some items := by
  obtain ⟨settled, settles, stand⟩ := settles_items items each
  refine ⟨.list settled, .given (settles_list settles) ?_, stand⟩
  obtain rfl | rfl := known
  · intro stands
    cases stands
  · intro stands
    rw [← Value.list.inj (Option.some.inj stands)] at settles
    cases settles
    exact Option.some.inj stands

end

end

/-! ### Levels -/

namespace Value

@[simp] theorem within_text {levels : Nat} (s : String) : (text s).Within levels := .text s

@[simp] theorem within_bool {levels : Nat} (b : Bool) : (bool b).Within levels := .bool b

theorem within_nat {levels n : Nat} (bound : n ≤ Decimal.maxU64) : (nat n).Within levels := by
  apply Within.int
  · exact (show Decimal.minI64 ≤ 0 by decide).trans (Int.natCast_nonneg n)
  · exact Int.ofNat_le.mpr bound

@[simp] theorem within_u64 {levels : Nat} (n : UInt64) : (u64 n).Within levels :=
  within_nat (Nat.le_of_lt_succ n.toNat_lt)

@[simp] theorem within_u32 {levels : Nat} (n : UInt32) : (u32 n).Within levels :=
  within_nat ((Nat.le_of_lt n.toNat_lt).trans (by decide))

@[simp] theorem within_i64 {levels : Nat} (n : Int64) : (i64 n).Within levels :=
  .int (i64_bounds n).1 ((i64_bounds n).2.trans (by decide))

@[simp] theorem within_list_iff {levels : Nat} {items : List Value} :
    (list items).Within (levels + 1) ↔ ∀ item ∈ items, item.Within levels := by
  constructor
  · rintro ⟨inner⟩
    assumption
  · exact .list

@[simp] theorem within_object_iff {levels : Nat} {members : List (String × Value)} :
    (object members).Within (levels + 1) ↔ ∀ member ∈ members, member.2.Within levels := by
  constructor
  · rintro ⟨inner⟩
    assumption
  · exact .object

@[simp] theorem mem_member?_iff {α : Type} {name : String} {toValue : α → Value} {a : Option α}
    {member : String × Value} :
    member ∈ member? name toValue a ↔ ∃ b ∈ a, member = (name, toValue b) := by
  cases a <;> simp [member?]

@[simp] theorem within_orNull_iff {α : Type} {levels : Nat} {toValue : α → Value} {a : Option α} :
    (orNull toValue a).Within levels ↔ ∀ b ∈ a, (toValue b).Within levels := by
  cases a with
  | none => simpa [orNull] using Within.null
  | some a => simp [orNull]

end Value

end Vouch.Json
