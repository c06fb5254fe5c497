import Mathlib.Tactic
import Vouch.Keyserver.Import
import Vouch.Keyserver.Network
import Vouch.Proofs.Text.Search

/-!
Failures of the network, told apart by what their layers say.

The texts of all layers are joined in one line before a phrase is looked for.  No phrase can come about
at a border of two texts or be lost there, so it is found if and only if some layer says it by itself.
What else the other layers say, where they stand and in which letter case, makes no difference.
-/

namespace Vouch.Keyserver

/-- One of the texts has one of the phrases by itself, in any letter case. -/
def Tells (phrases texts : List String) : Prop :=
  ∃ text ∈ texts, ∃ phrase ∈ phrases, Text.Utters phrase text.toList

def causePhrases : List String := timeoutPhrase :: lookupPhrases

/-- The texts of a failure with changes that touch nothing of what some layer says. -/
inductive Retold (texts : List String) : List String → Prop
  | permuted {others : List String} : texts.Perm others → Retold texts others
  | wrapped (outer inner : List String) : ¬Tells causePhrases (outer ++ inner) →
      Retold texts (outer ++ texts ++ inner)
  | recased {others : List String} :
      List.Forall₂ (fun text other => Text.Recased text.toList other.toList) texts others →
      Retold texts others

variable {phrase : String} {phrases : List String}

theorem lookupPhrases_subset : lookupPhrases ⊆ causePhrases :=
  List.subset_cons_self ..

theorem timeoutPhrase_subset : [timeoutPhrase] ⊆ causePhrases :=
  List.cons_subset.mpr ⟨List.mem_cons_self, List.nil_subset _⟩

section
variable (known : phrase ∈ causePhrases)
include known

/-- The texts of a failure are told apart by a mark that no phrase has. -/
theorem utters_joinedCauses_iff (texts : List String) :
    Text.Utters phrase (joinedCauses texts).toList ↔
      ∃ text ∈ texts, Text.Utters phrase text.toList := by
  have inhabited : phrase.toList ≠ [] :=
    (by decide : ∀ phrase ∈ causePhrases, phrase.toList ≠ []) phrase known
  have fresh : ':' ∉ phrase.toList :=
    (by decide : ∀ phrase ∈ causePhrases, ':' ∉ phrase.toList) phrase known
  have solid : phrase.toList.head? ≠ some ' ' :=
    (by decide : ∀ phrase ∈ causePhrases, phrase.toList.head? ≠ some ' ') phrase known
  have within {part : List Char} (spelled : Text.lowerChars part = phrase.toList) :
      part <:+: (joinedCauses texts).toList ↔ ∃ text ∈ texts, part <:+: text.toList := by
    rw [← spelled] at inhabited fresh solid
    have part_inhabited : part ≠ [] := by
      rintro rfl
      exact inhabited rfl
    have part_fresh : ':' ∉ part := fun member => fresh (List.mem_map_of_mem member)
    have part_solid : part.head? ≠ some ' ' := by
      intro blank
      rw [Text.lowerChars, List.head?_map, blank] at solid
      exact solid rfl
    rw [joinedCauses, String.toList_intercalate,
      show (": " : String).toList = [':', ' '] from rfl,
      Text.infix_intercalate_iff part_inhabited part_fresh part_solid]
    simp only [List.mem_map, exists_exists_and_eq_and]
  constructor
  · rintro ⟨part, inside, spelled⟩
    obtain ⟨text, member, inside⟩ := (within spelled).mp inside
    exact ⟨text, member, part, inside, spelled⟩
  · rintro ⟨text, member, part, inside, spelled⟩
    exact ⟨part, (within spelled).mpr ⟨text, member, inside⟩, spelled⟩

theorem utters_of_recased {text other : List Char} (recased : Text.Recased text other)
    (uttered : Text.Utters phrase text) : Text.Utters phrase other := by
  have ascii : phrase.toList.all (fun c => c.toNat < 128) = true :=
    (by decide : ∀ phrase ∈ causePhrases, phrase.toList.all (fun c => c.toNat < 128) = true)
      phrase known
  exact uttered.of_recased (fun c member => of_decide_eq_true (List.all_eq_true.mp ascii c member))
    recased

end

section
variable (known : phrases ⊆ causePhrases)
include known

theorem any_mentionsAnyCase_iff {texts : List String} :
    phrases.any (mentionsAnyCase (joinedCauses texts)) = true ↔ Tells phrases texts := by
  have said : ∀ phrase ∈ phrases, mentionsAnyCase (joinedCauses texts) phrase = true ↔
      ∃ text ∈ texts, Text.Utters phrase text.toList := by
    intro phrase listed
    rw [mentionsAnyCase, Text.mentions_lower_eq_true_iff, utters_joinedCauses_iff (known listed)]
  rw [List.any_eq_true]
  constructor
  · rintro ⟨phrase, listed, mentioned⟩
    obtain ⟨text, member, uttered⟩ := (said phrase listed).mp mentioned
    exact ⟨text, member, phrase, listed, uttered⟩
  · rintro ⟨text, member, phrase, listed, uttered⟩
    exact ⟨phrase, listed, (said phrase listed).mpr ⟨text, member, uttered⟩⟩

theorem tells_of_recased {texts others : List String}
    (recased : List.Forall₂ (fun text other => Text.Recased text.toList other.toList) texts others)
    (told : Tells phrases texts) : Tells phrases others := by
  obtain ⟨text, member, phrase, listed, uttered⟩ := told
  induction recased with
  | nil => cases member
  | @cons first other rest others same _ ih =>
    obtain rfl | later := List.mem_cons.mp member
    · exact ⟨other, List.mem_cons_self, phrase, listed, utters_of_recased (known listed) same uttered⟩
    · obtain ⟨found, there, told⟩ := ih later
      exact ⟨found, List.mem_cons_of_mem _ there, told⟩

/-- What some layer says is said by the same failure retold. -/
theorem Retold.tells_iff {texts others : List String} (retold : Retold texts others) :
    Tells phrases others ↔ Tells phrases texts := by
  cases retold with
  | permuted same => simp only [Tells, same.mem_iff]
  | wrapped outer inner silent =>
    constructor
    · rintro ⟨text, member, phrase, listed, uttered⟩
      have wraps : text ∉ outer ++ inner := fun layer =>
        silent ⟨text, layer, phrase, known listed, uttered⟩
      rw [List.mem_append, not_or] at wraps
      rw [List.mem_append, List.mem_append, or_iff_right wraps.1, or_iff_left wraps.2] at member
      exact ⟨text, member, phrase, listed, uttered⟩
    · rintro ⟨text, member, told⟩
      exact ⟨text, List.mem_append_left _ (List.mem_append_right _ member), told⟩
  | recased same =>
    have back := same.flip.imp fun _ _ recased => Text.Recased.symm recased
    exact ⟨tells_of_recased known back, tells_of_recased known same⟩

end

section
variable {texts : List String} (server : String)

theorem ofTransport_of_tells_lookup (told : Tells lookupPhrases texts) :
    Problem.ofTransport false (joinedCauses texts) server = .unknownServer server := by
  rw [Problem.ofTransport, if_neg Bool.false_ne_true,
    if_pos ((any_mentionsAnyCase_iff lookupPhrases_subset).mpr told)]

variable (resolved : ¬Tells lookupPhrases texts)
include resolved

theorem ofTransport_of_not_tells_lookup :
    Problem.ofTransport false (joinedCauses texts) server =
      if [timeoutPhrase].any (mentionsAnyCase (joinedCauses texts)) then .timeout server
      else .transport (joinedCauses texts) := by
  rw [Problem.ofTransport, if_neg Bool.false_ne_true,
    if_neg (mt (any_mentionsAnyCase_iff lookupPhrases_subset).mp resolved)]
  simp only [List.any_cons, List.any_nil, Bool.or_false]

theorem ofTransport_of_tells_timeout (told : Tells [timeoutPhrase] texts) :
    Problem.ofTransport false (joinedCauses texts) server = .timeout server := by
  rw [ofTransport_of_not_tells_lookup server resolved,
    if_pos ((any_mentionsAnyCase_iff timeoutPhrase_subset).mpr told)]

theorem ofTransport_of_not_tells_timeout (silent : ¬Tells [timeoutPhrase] texts) :
    Problem.ofTransport false (joinedCauses texts) server = .transport (joinedCauses texts) := by
  rw [ofTransport_of_not_tells_lookup server resolved,
    if_neg (mt (any_mentionsAnyCase_iff timeoutPhrase_subset).mp silent)]

end

theorem ofTransport_cases (texts : List String) (server : String) :
    Tells lookupPhrases texts ∧
        Problem.ofTransport false (joinedCauses texts) server = .unknownServer server ∨
      ¬Tells lookupPhrases texts ∧ Tells [timeoutPhrase] texts ∧
        Problem.ofTransport false (joinedCauses texts) server = .timeout server ∨
      ¬Tells lookupPhrases texts ∧ ¬Tells [timeoutPhrase] texts ∧
        Problem.ofTransport false (joinedCauses texts) server = .transport (joinedCauses texts) := by
  by_cases unknown : Tells lookupPhrases texts
  · exact .inl ⟨unknown, ofTransport_of_tells_lookup server unknown⟩
  · by_cases late : Tells [timeoutPhrase] texts
    · exact .inr (.inl ⟨unknown, late, ofTransport_of_tells_timeout server unknown late⟩)
    · exact .inr (.inr ⟨unknown, late, ofTransport_of_not_tells_timeout server unknown late⟩)

/-- The kind of a failure with these texts that the network does not flag as a time-out. -/
def transportKind (texts : List String) (server : String) : Import.FailureKind :=
  .ofProblem (.ofTransport false (joinedCauses texts) server)

theorem Retold.transportKind_eq {texts others : List String} (retold : Retold texts others)
    (server : String) : transportKind others server = transportKind texts server := by
  have lookup := retold.tells_iff lookupPhrases_subset
  have timeout := retold.tells_iff timeoutPhrase_subset
  unfold transportKind
  obtain ⟨unknown, told⟩ | ⟨resolved, late, told⟩ | ⟨resolved, silent, told⟩ :=
    ofTransport_cases texts server
  · rw [told, ofTransport_of_tells_lookup server (lookup.mpr unknown)]
  · rw [told, ofTransport_of_tells_timeout server (mt lookup.mp resolved) (timeout.mpr late)]
  · -- The messages differ here, each with its own texts.
    rw [told, ofTransport_of_not_tells_timeout server (mt lookup.mp resolved) (mt timeout.mp silent)]
    rfl

/-- A failure is of an unknown host if some layer says so, else a time-out if some layer says so, and
else a failed connection with all the texts.  Retelling it changes nothing about its kind, and a failure
that the network flags is a time-out whatever is said. -/
theorem told_by_any_layer (texts : List String) (server : String) :
    (Problem.ofTransport false (joinedCauses texts) server = .unknownServer server ↔
      Tells lookupPhrases texts) ∧
    (Problem.ofTransport false (joinedCauses texts) server = .timeout server ↔
      ¬Tells lookupPhrases texts ∧ Tells [timeoutPhrase] texts) ∧
    (Problem.ofTransport false (joinedCauses texts) server = .transport (joinedCauses texts) ↔
      ¬Tells lookupPhrases texts ∧ ¬Tells [timeoutPhrase] texts) ∧
    (∀ others, Retold texts others → transportKind others server = transportKind texts server) ∧
    ∀ chain, Problem.ofTransport true chain server = .timeout server := by
  rw [← and_assoc, ← and_assoc]
  refine ⟨?_, fun others retold => retold.transportKind_eq server, fun chain => rfl⟩
  obtain ⟨unknown, told⟩ | ⟨resolved, late, told⟩ | ⟨resolved, silent, told⟩ :=
    ofTransport_cases texts server
  · simp [told, unknown]
  · simp [told, resolved, late]
  · simp [told, resolved, silent]

/-- Layers that say nothing about hosts or time-outs hide no layer that does. -/
theorem told_by_inner_layer :
    Retold ["No Such Host is known"]
        (["error sending request: timed", "out of sockets"] ++ ["No Such Host is known"] ++
          ["os error 11001"]) ∧
      transportKind (["error sending request: timed", "out of sockets"] ++
          ["No Such Host is known"] ++ ["os error 11001"]) "keys.example.org" =
        transportKind ["No Such Host is known"] "keys.example.org" ∧
      transportKind ["No Such Host is known"] "keys.example.org" = .unknownServer := by
  have silent : ¬Tells causePhrases
      (["error sending request: timed", "out of sockets"] ++ ["os error 11001"]) := by
    rw [← any_mentionsAnyCase_iff (List.Subset.refl _), Bool.not_eq_true]
    decide +kernel
  have wrapped : Retold ["No Such Host is known"] _ := .wrapped _ _ silent
  obtain ⟨-, -, -, same, -⟩ := told_by_any_layer ["No Such Host is known"] "keys.example.org"
  exact ⟨wrapped, same _ wrapped, by decide +kernel⟩

end Vouch.Keyserver
