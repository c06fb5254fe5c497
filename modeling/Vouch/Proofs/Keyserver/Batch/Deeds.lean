import Mathlib.Tactic
import Vouch.Proofs.Keyserver.Batch.Storage

/-!
What deeds make of a file.

A file that is opened is empty, and what is written goes over what it holds by then, whichever key
that belongs to.  If nobody else has touched a file since it was opened for a key, it holds as much of
this key as was written.
-/

namespace Vouch.Keyserver

namespace Deed

def onFile (way : List String) (held : Option ByteArray) : Deed → Option ByteArray
  | .opened _ emptied => if way = emptied then some .empty else held
  | .wrote _ touched offset bytes =>
    if way = touched then held.map (Folder.patched · offset bytes) else held
  | _ => held

def toucher? (way : List String) : Deed → Option Nat
  | .opened position emptied => if way = emptied then some position else none
  | .wrote position touched _ _ => if way = touched then some position else none
  | _ => none

/-- What an answer of the network says. -/
def body? : Deed → Option String
  | .exchanged ⟨_, .answer _ body⟩ => some body
  | _ => none

end Deed

def replay (way : List String) (deeds : List Deed) (held : Option ByteArray) : Option ByteArray :=
  deeds.foldl (Deed.onFile way) held

/-- Since the file was opened for the key at a position, nobody else has touched it. -/
def Undisturbed (position : Nat) (way : List String) (deeds : List Deed) : Prop :=
  ∃ before after, deeds = before ++ .opened position way :: after ∧
    ∀ deed ∈ after, ∀ toucher, deed.toucher? way = some toucher → toucher = position

variable {deeds more : List Deed} {deed : Deed} {position : Nat} {way : List String}
  {held : Option ByteArray}

theorem Deed.onFile_of_untouched (untouched : deed.toucher? way = none)
    (held : Option ByteArray) : deed.onFile way held = held := by
  cases deed with
  | opened position emptied =>
    rw [toucher?] at untouched
    split_ifs at untouched with same
    exact if_neg same
  | wrote position touched offset bytes =>
    rw [toucher?] at untouched
    split_ifs at untouched with same
    exact if_neg same
  | _ => rfl

theorem replay_append (way : List String) (deeds more : List Deed) (held : Option ByteArray) :
    replay way (deeds ++ more) held = replay way more (replay way deeds held) :=
  List.foldl_append

theorem replay_of_untouched (untouched : ∀ deed ∈ deeds, deed.toucher? way = none) :
    replay way deeds held = held := by
  induction deeds generalizing held with
  | nil => rfl
  | cons deed rest ih =>
    obtain ⟨first, others⟩ := List.forall_mem_cons.mp untouched
    refine Eq.trans ?_ (ih others)
    exact congrArg (replay way rest) (Deed.onFile_of_untouched first held)

namespace Undisturbed

/-- A deed that does not open the file leaves it undisturbed only if it was, and then it is not for
another key. -/
theorem of_concat (undisturbed : Undisturbed position way (deeds ++ [deed]))
    (other : deed ≠ .opened position way) :
    Undisturbed position way deeds ∧
      ∀ toucher, deed.toucher? way = some toucher → toucher = position := by
  obtain ⟨before, after, parts, own⟩ := undisturbed
  obtain rfl | ⟨init, last, rfl⟩ := List.eq_nil_or_concat after
  · exact absurd (List.append_inj_right' parts rfl) (by simpa using other)
  · rw [List.concat_eq_append] at parts own
    rw [← List.cons_append, ← List.append_assoc] at parts
    obtain ⟨rfl, same⟩ := List.append_inj' parts rfl
    cases same
    exact ⟨⟨before, init, rfl, fun deed member => own deed (List.mem_append_left _ member)⟩,
      own deed (List.mem_append_right _ (List.mem_singleton_self _))⟩

theorem of_untouched (undisturbed : Undisturbed position way (deeds ++ more))
    (untouched : ∀ deed ∈ more, deed.toucher? way = none) : Undisturbed position way deeds := by
  induction more using List.reverseRecOn with
  | nil => rwa [List.append_nil] at undisturbed
  | append_singleton more deed ih =>
    rw [← List.append_assoc] at undisturbed
    have apart : deed ≠ .opened position way := by
      rintro rfl
      have touched := untouched _ (List.mem_append_right _ (List.mem_singleton_self _))
      rw [Deed.toucher?, if_pos rfl] at touched
      cases touched
    exact ih (undisturbed.of_concat apart).1
      fun deed member => untouched deed (List.mem_append_left _ member)

end Undisturbed

end Vouch.Keyserver
