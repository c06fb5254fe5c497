import Mathlib.Data.List.DropRight
import Mathlib.Tactic
import Vouch.Url.Basic
import Vouch.Proofs.Text.Line
import Vouch.Proofs.Url.Host

/-!
Paths that are made longer.

All of a path but its last segment is worked off in the same way whatever follows.  What it comes to
is the folder that names are added to.
-/

namespace Vouch.Url

/-! ### Segments -/

theorem segments_append_cons (kind : Kind) (cs : List Char) {slash : Char}
    (ends : isSlash kind slash = true) (rest : List Char) :
    segments kind (cs ++ slash :: rest) = segments kind cs ++ segments kind rest := by
  unfold segments
  rw [List.map_append, List.map_cons, if_pos ends, Text.pieces_append_cons]

theorem segments_ne_nil (kind : Kind) (cs : List Char) : segments kind cs ≠ [] := by
  obtain ⟨first, others, cut⟩ := Text.exists_pieces_cons '/'
    (cs.map fun c => if isSlash kind c then '/' else c)
  unfold segments
  rw [cut]
  exact List.cons_ne_nil _ _

theorem exists_segments (kind : Kind) (cs : List Char) :
    ∃ init last, segments kind cs = init ++ [last] :=
  ⟨_, _, (List.dropLast_append_getLast (segments_ne_nil kind cs)).symm⟩

theorem segments_replicate (kind : Kind) (n : Nat) :
    segments kind (List.replicate n '/') = List.replicate (n + 1) [] := by
  induction n with
  | zero => rfl
  | succ n ih =>
    have more := segments_append_cons kind [] (show isSlash kind '/' = true from rfl)
      (List.replicate n '/')
    rw [ih] at more
    exact more

def advance (before : List (List Char)) (segment : List Char) : List (List Char) :=
  if isAbove segment then before.drop 1
  else if isHere segment then before
  else Text.percentEscaped isPathChar segment :: before

/-- What a path that starts with a slash comes to when more follows, the last segment first. -/
def folder : List Char → List (List Char)
  | [] => []
  | _ :: cs => (segments .web cs).foldl advance []

def joined (before : List (List Char)) : List Char :=
  before.reverse.flatMap ('/' :: ·)

theorem resolve_append {rest : List (List Char)} (more : rest ≠ [])
    (before segs : List (List Char)) :
    resolve before (segs ++ rest) = resolve (segs.foldl advance before) rest := by
  induction segs generalizing before with
  | nil => rfl
  | cons segment segs ih =>
    have later : (segs ++ rest).isEmpty = false := by
      simp [more]
    rw [List.cons_append, resolve, later, List.foldl_cons, advance]
    simp only [Bool.false_eq_true, if_false]
    split_ifs <;> exact ih _

variable {tail rest : List Char}

def IsPath (tail : List Char) : Prop :=
  ∀ c ∈ tail.head?, isSlash .web c = true

theorem pathAfterHost_append (path : IsPath tail) (rest : List Char) :
    pathAfterHost .web (tail ++ '/' :: rest) =
      (resolve (folder tail) (segments .web rest)).flatMap ('/' :: ·) := by
  cases tail with
  | nil => rfl
  | cons c cs =>
    have slash : isSlash .web c = true := path c rfl
    rw [List.cons_append, pathAfterHost, if_pos slash, rootedPath, segments_append_cons .web cs rfl,
      resolve_append (segments_ne_nil .web rest)]
    rfl

theorem pathAfterHost_page (path : IsPath tail) :
    pathAfterHost .web (tail ++ "/pks/lookup".toList) =
      joined (folder tail) ++ "/pks/lookup".toList := by
  have worked (before : List (List Char)) :
      resolve before (segments .web "pks/lookup".toList) =
        ("lookup".toList :: "pks".toList :: before).reverse := rfl
  have read := pathAfterHost_append path "pks/lookup".toList
  rw [worked] at read
  refine read.trans ?_
  simp [joined]

/-- Empty segments stay. -/
theorem resolve_replicate (before : List (List Char)) (n : Nat) :
    resolve before (List.replicate n []) = before.reverse ++ List.replicate n [] := by
  induction n generalizing before with
  | zero => exact (List.append_nil _).symm
  | succ n ih =>
    have empty : resolve before (List.replicate (n + 1) []) =
        resolve ([] :: before) (List.replicate n []) := rfl
    rw [empty, ih, List.reverse_cons, List.append_assoc, List.replicate_succ]
    rfl

/-- The last segment stands for a place, or it is a name in one. -/
theorem resolve_singleton (before : List (List Char)) (last : List Char) :
    ∃ n, resolve before [last] = (advance before last).reverse ++ List.replicate n [] := by
  unfold advance
  by_cases above : isAbove last = true
  · exact ⟨1, by simp [resolve, above]⟩
  · by_cases here : isHere last = true
    · exact ⟨1, by simp [resolve, above, here]⟩
    · exact ⟨0, by simp [resolve, above, here]⟩

theorem flatMap_replicate (before : List (List Char)) (n : Nat) :
    (before.reverse ++ List.replicate n []).flatMap ('/' :: ·) =
      joined before ++ List.replicate n '/' := by
  rw [List.flatMap_append, List.flatMap_replicate, List.flatten_replicate_singleton]
  rfl

theorem pathAfterHost_slashes (path : IsPath tail) (n : Nat) :
    pathAfterHost .web (tail ++ List.replicate (n + 1) '/') =
      joined (folder tail) ++ List.replicate (n + 1) '/' := by
  have read := pathAfterHost_append path (List.replicate n '/')
  rw [segments_replicate, resolve_replicate, flatMap_replicate] at read
  exact read

/-- The segments of a path whose last segment is worked off as the last one. -/
theorem pathAfterHost_cons {c : Char} (slash : isSlash .web c = true) {cs last : List Char}
    {init : List (List Char)} (cut : segments .web cs = init ++ [last]) :
    pathAfterHost .web (c :: cs) =
      (resolve (init.foldl advance []) [last]).flatMap ('/' :: ·) := by
  rw [pathAfterHost, if_pos slash, rootedPath, cut, resolve_append (List.cons_ne_nil _ _)]

theorem exists_pathAfterHost (path : IsPath tail) (n : Nat) :
    ∃ m, pathAfterHost .web (tail ++ List.replicate n '/') =
      joined (folder tail) ++ List.replicate m '/' := by
  cases n with
  | succ n => exact ⟨n + 1, pathAfterHost_slashes path n⟩
  | zero =>
    rw [List.replicate_zero, List.append_nil]
    cases tail with
    | nil => exact ⟨1, rfl⟩
    | cons c cs =>
      obtain ⟨init, last, cut⟩ := exists_segments .web cs
      obtain ⟨m, worked⟩ := resolve_singleton (init.foldl advance []) last
      refine ⟨m, ?_⟩
      rw [pathAfterHost_cons (path c rfl) cut, worked, flatMap_replicate, folder, cut,
        List.foldl_append]
      rfl

/-! ### Blanks at the end -/

theorem joined_cons (segment : List Char) (before : List (List Char)) :
    joined (segment :: before) = joined before ++ '/' :: segment := by
  simp [joined]

theorem length_resolve_singleton_le (before : List (List Char)) (last : List Char) :
    ((resolve before [last]).flatMap ('/' :: ·)).length ≤
      (joined before).length + 1 + (Text.percentEscaped isPathChar last).length := by
  have fewer : (joined (before.drop 1)).length ≤ (joined before).length := by
    cases before with
    | nil => exact le_rfl
    | cons segment before =>
      rw [List.drop_succ_cons, List.drop_zero, joined_cons, List.length_append]
      exact Nat.le_add_right _ _
  by_cases above : isAbove last = true
  · have worked : resolve before [last] = ([] :: before.drop 1).reverse := by
      simp [resolve, above]
    have size := congrArg List.length (joined_cons [] (before.drop 1))
    rw [List.length_append, List.length_singleton] at size
    rw [worked]
    change (joined ([] :: before.drop 1)).length ≤ _
    omega
  · by_cases here : isHere last = true
    · have worked : resolve before [last] = ([] :: before).reverse := by
        simp [resolve, above, here]
      have size := congrArg List.length (joined_cons [] before)
      rw [List.length_append, List.length_singleton] at size
      rw [worked]
      change (joined ([] :: before)).length ≤ _
      omega
    · have worked : resolve before [last] =
          (Text.percentEscaped isPathChar last :: before).reverse := by
        simp [resolve, above, here]
      have size := congrArg List.length
        (joined_cons (Text.percentEscaped isPathChar last) before)
      rw [List.length_append, List.length_cons] at size
      rw [worked]
      change (joined (Text.percentEscaped isPathChar last :: before)).length ≤ _
      omega

variable {blanks segment : List Char}

theorem mem_of_dropDot? {c : Char} (margin : isMargin c = true)
    (dotted : dropDot? segment = some rest) (listed : c ∈ segment) : c ∈ rest := by
  have other {d : Char} (solid : isMargin d = false) : c ≠ d := ne_of_isMargin margin solid
  unfold dropDot? at dotted
  split at dotted
  case h_1 =>
    cases dotted
    exact List.mem_of_ne_of_mem (other (by decide)) listed
  case h_2 d _ =>
    split_ifs at dotted with letter
    cases dotted
    have solid : isMargin d = false := by
      rw [Bool.or_eq_true, beq_iff_eq, beq_iff_eq] at letter
      obtain rfl | rfl := letter <;> rfl
    exact List.mem_of_ne_of_mem (other solid) (List.mem_of_ne_of_mem (other (by decide))
      (List.mem_of_ne_of_mem (other (by decide)) listed))
  case h_3 => cases dotted

/-- A segment with a blank in it stands for itself. -/
theorem advance_of_mem {c : Char} (margin : isMargin c = true) (listed : c ∈ segment)
    (before : List (List Char)) :
    advance before segment = Text.percentEscaped isPathChar segment :: before := by
  have here : ¬isHere segment = true := by
    intro here
    exact List.not_mem_nil (mem_of_dropDot? margin (beq_iff_eq.mp here) listed)
  have above : ¬isAbove segment = true := by
    intro above
    obtain ⟨rest, first, second⟩ := Option.bind_eq_some_iff.mp (beq_iff_eq.mp above)
    exact List.not_mem_nil (mem_of_dropDot? margin second (mem_of_dropDot? margin first listed))
  rw [advance, if_neg above, if_neg here]

theorem segments_append (plain : ∀ c ∈ blanks, isSlash .web c = false) {cs last : List Char}
    {init : List (List Char)} (cut : segments .web cs = init ++ [last]) :
    segments .web (cs ++ blanks) = init ++ [last ++ blanks] := by
  have same : blanks.map (fun c => if isSlash .web c then '/' else c) = blanks := by
    refine (List.map_congr_left fun c member => ?_).trans (List.map_id _)
    rw [plain c member]
    rfl
  have unbroken : '/' ∉ blanks := by
    intro member
    cases plain '/' member
  unfold segments at cut ⊢
  rw [List.map_append, same, Text.pieces_append unbroken cut]

/-- The page behind a path with blanks at its end lies deeper than a page in its folder. -/
theorem length_pathAfterHost_lt {c : Char} (slash : isSlash .web c = true) (cs : List Char)
    (some_blank : blanks ≠ []) (blank : ∀ c ∈ blanks, isMargin c = true) :
    (pathAfterHost .web (c :: cs)).length + "/pks/lookup".toList.length <
      (pathAfterHost .web (c :: cs ++ blanks ++ "/pks/lookup".toList)).length := by
  have plain : ∀ c ∈ blanks, isSlash .web c = false :=
    fun c member => not_isSlash (endsHost_of_isMargin (blank c member))
  obtain ⟨init, last, cut⟩ := exists_segments .web cs
  obtain ⟨b, others, split⟩ := List.exists_cons_of_ne_nil some_blank
  have inside : b ∈ last ++ blanks := by
    rw [split]
    exact List.mem_append_right _ List.mem_cons_self
  have path : IsPath (c :: cs ++ blanks) := by
    intro d first
    cases first
    exact slash
  have deeper : folder (c :: cs ++ blanks) =
      Text.percentEscaped isPathChar (last ++ blanks) :: init.foldl advance [] := by
    rw [List.cons_append, folder, segments_append plain cut, List.foldl_append]
    exact advance_of_mem (blank b (split ▸ List.mem_cons_self)) inside _
  have escaped : 0 < (Text.percentEscaped isPathChar blanks).length :=
    List.length_pos_iff.mpr (Text.percentEscaped_ne_nil _ some_blank)
  have bound := length_resolve_singleton_le (init.foldl advance []) last
  have parts : Text.percentEscaped isPathChar (last ++ blanks) =
      Text.percentEscaped isPathChar last ++ Text.percentEscaped isPathChar blanks :=
    List.flatMap_append
  rw [pathAfterHost_page path, deeper, joined_cons, parts, pathAfterHost_cons slash cut]
  simp only [List.length_append, List.length_cons] at bound ⊢
  omega

/-! ### Slashes at the end -/

theorem rdropWhile_append_replicate (cs : List Char) (n : Nat) :
    (cs ++ List.replicate n '/').rdropWhile (· == '/') = cs.rdropWhile (· == '/') := by
  induction n with
  | zero => rw [List.replicate_zero, List.append_nil]
  | succ n ih =>
    rw [List.replicate_succ', ← List.append_assoc, List.rdropWhile_concat_pos _ _ _ rfl, ih]

theorem rdropWhile_eq_self_iff (cs : List Char) :
    cs.rdropWhile (· == '/') = cs ↔ ¬ "//".toList <:+ cs ++ ['/'] := by
  obtain rfl | ⟨init, c, rfl⟩ := List.eq_nil_or_concat' cs
  · refine iff_of_true rfl fun slashes => ?_
    have fits := slashes.length_le
    simp at fits
  · by_cases slash : c = '/'
    · subst slash
      rw [List.rdropWhile_concat_pos _ _ _ rfl]
      refine iff_of_false ?_ (not_not.mpr ⟨init, by simp⟩)
      intro same
      have fits := (List.rdropWhile_prefix (p := (· == '/')) (l := init)).length_le
      rw [same, List.length_append] at fits
      simp at fits
    · rw [List.rdropWhile_concat_neg _ _ _ (by simpa using slash)]
      refine iff_of_true rfl ?_
      rintro ⟨front, parts⟩
      have last := congrArg List.reverse parts
      simp at last
      exact slash last.1.symm

end Vouch.Url
