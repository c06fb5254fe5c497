import Mathlib.Tactic
import Vouch.Url.Basic
import Vouch.Proofs.Except
import Vouch.Proofs.Text.Line
import Vouch.Proofs.Text.Percent
import Vouch.Proofs.Url.Margin

/-!
No blank and no control character belongs to a host.

A domain name refuses such a character however it is written, an address in brackets ends with its
bracket, and a port is made of digits.
-/

namespace Vouch

namespace Url

/-! ### Domain names -/

namespace Domain

theorem mapped_of_isMargin {c : Char} (margin : isMargin c = true) : mapped c = [c] := by
  have small : c.toNat ≤ 32 := of_decide_eq_true margin
  have folded : Text.folded c = c := by
    unfold Text.folded
    dsimp only
    rw [if_pos (by omega)]
    refine dif_neg ?_
    rintro ⟨capital, -⟩
    exact not_le_of_isMargin margin (show 32 < 'A'.val.toNat by decide) capital
  have common : isIgnored c = false ∧ isFullStop c = false := by
    constructor
    · simp only [isIgnored, Bool.or_eq_false_iff, Bool.and_eq_false_iff, beq_eq_false_iff_ne,
        decide_eq_false_iff_not]
      omega
    · simp only [isFullStop, Bool.or_eq_false_iff, beq_eq_false_iff_ne]
      omega
  simp only [mapped, common.1, common.2, Bool.false_eq_true, if_false]
  rw [if_neg (by omega), folded]

theorem label?_eq_none {c : Char} (margin : isMargin c = true) {label : List Char}
    (listed : c ∈ label) : label? label = none := by
  have small : c.toNat ≤ 32 := of_decide_eq_true margin
  have refused : isAllowed c = false := by
    simp [isAllowed, isForbiddenAscii, small]
    omega
  have unlike : ¬label.all isAllowed = true := by
    intro allowed
    rw [List.all_eq_true.mp allowed c listed] at refused
    cases refused
  rw [label?, if_pos (by simpa using unlike)]

/-- A domain name holds neither a blank nor a control character. -/
theorem written?_eq_none {c : Char} (margin : isMargin c = true) {cs : List Char}
    (listed : c ∈ cs) : written? cs = none := by
  have dotless : c ≠ '.' := ne_of_isMargin margin (by decide)
  have kept : c ∈ cs.flatMap mapped := by
    refine List.mem_flatMap.mpr ⟨c, listed, ?_⟩
    rw [mapped_of_isMargin margin]
    exact List.mem_singleton_self c
  obtain ⟨piece, member, found⟩ := Text.exists_mem_pieces dotless kept
  rw [written?, Option.bind_eq_bind, Option.bind_eq_none_iff]
  intro labels mapped
  obtain ⟨label, given⟩ := exists_of_mapM_of_mem mapped member
  rw [label?_eq_none margin found] at given
  cases given

end Domain

/-- The same goes for a name that is written with escapes. -/
theorem Domain.unescaped_eq_none {c : Char} (margin : isMargin c = true) {name : List Char}
    (listed : c ∈ name) :
    (Text.ofBytes? (Text.unescapedBytes name)).bind (Domain.written? ·.toList) = none := by
  have small : c.toNat ≤ 32 := of_decide_eq_true margin
  have sign : c ≠ '%' := ne_of_isMargin margin (by decide)
  have digitless : Text.hexValue? c = none := by
    have letters : ¬ 'a' ≤ c ∧ ¬ 'A' ≤ c :=
      ⟨not_le_of_isMargin margin (show 32 < 'a'.val.toNat by decide),
        not_le_of_isMargin margin (show 32 < 'A'.val.toNat by decide)⟩
    simp [Text.hexValue?, isDigit_of_isMargin margin, letters]
  rw [Option.bind_eq_none_iff]
  intro text denoted
  -- The byte of the character is among those that the name stands for.
  have alone : String.utf8EncodeChar c = [UInt8.ofNat c.toNat] :=
    if_pos (small.trans (by decide))
  have value : (UInt8.ofNat c.toNat).toNat = c.toNat := by
    rw [UInt8.toNat_ofNat']
    omega
  have byte : UInt8.ofNat c.toNat ∈ Text.bytesOf text.toList := by
    rw [Text.bytesOf_of_ofBytes? denoted]
    exact Text.mem_unescapedBytes sign digitless (alone ▸ List.mem_singleton_self _) name listed
  obtain ⟨d, member, encoded⟩ := List.mem_flatMap.mp byte
  have same := Text.toNat_of_mem_utf8EncodeChar encoded (by omega)
  exact Domain.written?_eq_none (decide_eq_true (by omega)) member

/-- A host holds neither a blank nor a control character. -/
theorem Host.read_ne_ok {c : Char} (margin : isMargin c = true) {name : List Char}
    (listed : c ∈ name) (open_end : name.getLast? ≠ some ']') (host : Host) :
    Host.read name ≠ .ok host := by
  intro found
  unfold Host.read at found
  split at found
  case h_1 rest =>
    unfold ofBracketed at found
    split at found
    case h_1 ends _ =>
      have last : ('[' :: rest).getLast? = some ']' := by
        rw [List.getLast?_cons, ends]
        rfl
      exact open_end last
    case h_2 => cases found
  case h_2 =>
    rw [Domain.unescaped_eq_none margin listed] at found
    cases found

/-! ### Authorities -/

variable {scheme : String} {place rest blanks : List Char}

/-- What stands after the host does not matter to it. -/
theorem authority_web_eq_ok_iff {found : Option Host × Option Nat} :
    authority .web scheme place rest = .ok found ↔
      ∃ host port, Host.read (splitPort false (splitCredentials place).2).1 = .ok host ∧
        portOf ((splitPort false (splitCredentials place).2).2.drop 1) = .ok port ∧
        (splitPort false (splitCredentials place).2).1 ≠ [] ∧
        found = (some host, port.filter (usualPort? scheme != some ·)) := by
  unfold authority
  obtain ⟨credentials, remainder⟩ := splitCredentials place
  dsimp only
  cases cut : splitPort false remainder with
  | mk name port =>
    cases name with
    | nil => simp [bind, Except.bind, throw, throwThe, MonadExceptOf.throw]
    | cons c cs =>
      have inhabited : remainder.isEmpty = false := by
        cases remainder with
        | nil => cases cut
        | cons _ _ => rfl
      cases named : Host.read (c :: cs) with
      | error flaw => simp [inhabited, bind, Except.bind]
      | ok host =>
        cases ported : portOf (port.drop 1) with
        | error flaw => simp [inhabited, bind, Except.bind]
        | ok number =>
          simpa [inhabited, bind, Except.bind, pure, Except.pure] using eq_comm

theorem drop_length_takeWhile {α : Type} (p : α → Bool) (items : List α) :
    items.drop (items.takeWhile p).length = items.dropWhile p := by
  induction items with
  | nil => rfl
  | cons item rest ih =>
    by_cases holds : p item = true
    · rw [List.takeWhile_cons_of_pos holds, List.dropWhile_cons_of_pos holds, List.length_cons,
        List.drop_succ_cons, ih]
    · rw [List.takeWhile_cons_of_neg holds, List.dropWhile_cons_of_neg holds]
      rfl

theorem splitCredentials_append (plain : '@' ∉ blanks) : splitCredentials (place ++ blanks) =
    ((splitCredentials place).1, (splitCredentials place).2 ++ blanks) := by
  have all : ∀ c ∈ blanks.reverse, (c != '@') = true := by
    intro c member
    rw [bne_iff_ne]
    rintro rfl
    exact plain (List.mem_reverse.mp member)
  have fits := (List.takeWhile_prefix (· != '@') (l := place.reverse)).length_le
  unfold splitCredentials
  rw [List.reverse_append, List.takeWhile_append_of_pos all]
  simp only [List.reverse_append, List.reverse_reverse, List.length_append, List.length_reverse]
    at fits ⊢
  by_cases whole : (place.reverse.takeWhile (· != '@')).length = place.length
  · rw [if_pos (by omega), if_pos whole]
  · rw [if_neg (by omega), if_neg whole, List.take_append_of_le_length (by omega)]
    congr 3
    omega

theorem mem_of_mem_splitCredentials {c : Char} (listed : c ∈ (splitCredentials place).2) :
    c ∈ place := by
  unfold splitCredentials at listed
  dsimp only at listed
  split at listed
  · exact listed
  · exact List.mem_reverse.mp ((List.takeWhile_prefix _).subset (List.mem_reverse.mp listed))

def bracketsAfter (bracketed : Bool) (c : Char) : Bool :=
  if c == '[' then true else if c == ']' then false else bracketed

theorem splitPort_cons (bracketed : Bool) (c : Char) (cs : List Char) :
    splitPort bracketed (c :: cs) =
      if c == ':' && !bracketed then ([], c :: cs)
      else (c :: (splitPort (bracketsAfter bracketed c) cs).1,
        (splitPort (bracketsAfter bracketed c) cs).2) := rfl

theorem splitPort_of_not_mem (plain : ':' ∉ place) (bracketed : Bool) :
    splitPort bracketed place = (place, []) := by
  induction place generalizing bracketed with
  | nil => rfl
  | cons c place ih =>
    rw [List.mem_cons, not_or] at plain
    rw [splitPort_cons, if_neg (by simp [Ne.symm plain.1]), ih plain.2]

theorem splitPort_append (plain : ':' ∉ blanks) (bracketed : Bool) (place : List Char) :
    splitPort bracketed (place ++ blanks) =
      if (splitPort bracketed place).2 = [] then (place ++ blanks, [])
      else ((splitPort bracketed place).1, (splitPort bracketed place).2 ++ blanks) := by
  induction place generalizing bracketed with
  | nil => exact splitPort_of_not_mem plain bracketed
  | cons c place ih =>
    rw [List.cons_append, splitPort_cons, splitPort_cons]
    by_cases colon : (c == ':' && !bracketed) = true
    · rw [if_pos colon, if_pos colon, if_neg (List.cons_ne_nil _ _)]
      rfl
    · rw [if_neg colon, if_neg colon, ih]
      dsimp only
      split_ifs <;> rfl

theorem mem_of_mem_splitPort {c : Char} {bracketed : Bool}
    (listed : c ∈ (splitPort bracketed place).2) : c ∈ place := by
  induction place generalizing bracketed with
  | nil => cases listed
  | cons d place ih =>
    rw [splitPort_cons] at listed
    split at listed
    · exact listed
    · exact List.mem_cons_of_mem _ (ih listed)

theorem portOf_append_ne_ok {digits : List Char} (ends : '\\' ∉ digits) (some_blank : blanks ≠ [])
    (blank : ∀ c ∈ blanks, isMargin c = true) (port : Option Nat) :
    portOf (digits ++ blanks) ≠ .ok port := by
  -- Something is left after the digits, and it is no backslash.
  obtain ⟨c, others, left, other⟩ : ∃ c others,
      (digits ++ blanks).dropWhile Char.isDigit = c :: others ∧ c ≠ '\\' := by
    rw [List.dropWhile_append]
    split_ifs with all_digits
    · obtain ⟨c, others, rfl⟩ := List.exists_cons_of_ne_nil some_blank
      have margin := blank c List.mem_cons_self
      exact ⟨c, others, List.dropWhile_cons_of_neg (by simp [isDigit_of_isMargin margin]),
        ne_of_isMargin margin (by decide)⟩
    · have more : digits.dropWhile Char.isDigit ≠ [] := fun none_left =>
        all_digits (List.isEmpty_iff.mpr none_left)
      obtain ⟨c, others, left⟩ := List.exists_cons_of_ne_nil more
      rw [left]
      refine ⟨c, others ++ blanks, rfl, ?_⟩
      rintro rfl
      exact ends ((List.dropWhile_suffix _).subset (left ▸ List.mem_cons_self))
  unfold portOf
  dsimp only
  rw [drop_length_takeWhile, left]
  split
  case h_1 none_left => cases none_left
  case h_2 same =>
    cases same
    exact absurd rfl other
  case h_3 => exact nofun

theorem authority_append_ne_ok (unended : ∀ c ∈ place, endsHost .web c = false)
    (some_blank : blanks ≠ []) (blank : ∀ c ∈ blanks, isMargin c = true)
    (found : Option Host × Option Nat) :
    authority .web scheme (place ++ blanks) rest ≠ .ok found := by
  have absent {c : Char} (solid : isMargin c = false) : c ∉ blanks :=
    fun member => ne_of_isMargin (blank c member) solid rfl
  intro made
  obtain ⟨host, port, named, ported, -, -⟩ := authority_web_eq_ok_iff.mp made
  rw [splitCredentials_append (absent (by decide))] at named ported
  dsimp only at named ported
  rw [splitPort_append (absent (by decide))] at named ported
  split_ifs at named ported with whole
  · have last : ((splitCredentials place).2 ++ blanks).getLast? ≠ some ']' := by
      rw [List.getLast?_append_of_ne_nil _ some_blank]
      intro ends
      exact absent (show isMargin ']' = false by decide) (List.mem_of_getLast? ends)
    obtain ⟨c, others, rfl⟩ := List.exists_cons_of_ne_nil some_blank
    exact Host.read_ne_ok (blank c List.mem_cons_self)
      (List.mem_append_right _ List.mem_cons_self) last host named
  · have moved : ((splitPort false (splitCredentials place).2).2 ++ blanks).drop 1 =
        (splitPort false (splitCredentials place).2).2.drop 1 ++ blanks :=
      List.drop_append_of_le_length (List.length_pos_iff.mpr whole)
    rw [moved] at ported
    refine portOf_append_ne_ok ?_ some_blank blank port ported
    intro backslash
    have member := mem_of_mem_splitCredentials
      (mem_of_mem_splitPort (List.mem_of_mem_drop backslash))
    have solid := unended _ member
    cases solid

end Url

end Vouch
