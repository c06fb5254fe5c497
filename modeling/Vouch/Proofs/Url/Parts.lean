import Mathlib.Tactic
import Vouch.Proofs.Except
import Vouch.Proofs.Url.Host
import Vouch.Proofs.Url.Path

/-!
The text of a web URL and what stands where in it.

A text is cut behind its scheme, before its host and behind it.  What follows the host can be
replaced without any change to the rest.
-/

namespace Vouch.Url

/-! ### Queries and fragments -/

def endsPath (c : Char) : Bool :=
  c == '?' || c == '#'

theorem splitQuery_fst (cs : List Char) : (splitQuery cs).1 = cs.takeWhile (!endsPath ·) := by
  have both : (splitQuery cs).1 = (cs.takeWhile (· != '#')).takeWhile (· != '?') := by
    unfold splitQuery
    dsimp only
    split <;> rfl
  rw [both, List.takeWhile_takeWhile]
  congr 1
  funext c
  by_cases query : c = '?' <;> by_cases fragment : c = '#' <;> simp [endsPath, query, fragment]

theorem isSlash_of_endsHost {c : Char} (ends : endsHost .web c = true)
    (plain : endsPath c = false) : isSlash .web c = true := by
  simpa [endsHost, Bool.or_assoc, ← endsPath.eq_def, plain] using ends

theorem endsPath_of_isMargin {c : Char} (margin : isMargin c = true) : endsPath c = false := by
  have unended := endsHost_of_isMargin margin
  simp only [endsHost, Bool.or_eq_false_iff] at unended
  simp only [endsPath, unended.1.2, unended.2, Bool.or_self]

/-- The path ends before the first of these characters, so what follows one does not matter to it. -/
theorem splitQuery_append_cons {mark : Char} (marks : endsPath mark = true)
    (tail rest : List Char) : (splitQuery (tail ++ mark :: rest)).1 = (splitQuery tail).1 := by
  rw [splitQuery_fst, splitQuery_fst, List.takeWhile_append]
  split_ifs with whole
  · rw [List.takeWhile_cons_of_neg (by simp [marks]), List.append_nil]
    exact ((List.takeWhile_prefix _).eq_of_length whole).symm
  · rfl

theorem splitQuery_of_plain {cs : List Char} (plain : ∀ c ∈ cs, endsPath c = false) :
    splitQuery cs = (cs, none) := by
  have apart : ∀ c ∈ cs, c ≠ '?' ∧ c ≠ '#' := by
    intro c member
    simpa [endsPath] using plain c member
  have no_fragment : cs.takeWhile (· != '#') = cs := by
    rw [List.takeWhile_eq_self_iff]
    exact fun c member => bne_iff_ne.mpr (apart c member).2
  have no_query : cs.takeWhile (· != '?') = cs := by
    rw [List.takeWhile_eq_self_iff]
    exact fun c member => bne_iff_ne.mpr (apart c member).1
  simp only [splitQuery, no_fragment, no_query, List.drop_length]

/-! ### Parts -/

structure WebText where
  name : List Char
  slashes : List Char
  place : List Char
  tail : List Char
  name_head : ∃ first ∈ name.head?, Text.isAsciiLetter first = true
  name_chars : ∀ c ∈ name, isSchemeChar c = true
  web : Kind.ofScheme (String.ofList (Text.lowerChars name)) = .web
  slashes_chars : ∀ c ∈ slashes, isSlash .web c = true
  inhabited : place ≠ []
  unended : ∀ c ∈ place, endsHost .web c = false
  ended : ∀ c ∈ tail.head?, endsHost .web c = true

namespace WebText

def scheme (text : WebText) : String :=
  String.ofList (Text.lowerChars text.name)

def front (text : WebText) : List Char :=
  text.name ++ ':' :: (text.slashes ++ text.place)

def chars (text : WebText) : List Char :=
  text.front ++ text.tail

def withTail (text : WebText) (tail : List Char)
    (ended : ∀ c ∈ tail.head?, endsHost .web c = true) : WebText :=
  { text with tail, ended }

end WebText

theorem splitScheme?_append {name : List Char} (rest : List Char)
    (head : ∃ first ∈ name.head?, Text.isAsciiLetter first = true)
    (chars : ∀ c ∈ name, isSchemeChar c = true) :
    splitScheme? (name ++ ':' :: rest) = some (String.ofList (Text.lowerChars name), rest) := by
  have taken : (name ++ ':' :: rest).takeWhile isSchemeChar = name := by
    rw [List.takeWhile_append_of_pos chars, List.takeWhile_cons_of_neg (by decide),
      List.append_nil]
  obtain ⟨first, starts, letter⟩ := head
  obtain ⟨others, rfl⟩ : ∃ others, name = first :: others :=
    ⟨_, (List.cons_head?_tail starts).symm⟩
  simp only [splitScheme?, taken, List.drop_left, letter, if_true]

theorem exists_of_splitScheme? {cs rest : List Char} {scheme : String}
    (split_off : splitScheme? cs = some (scheme, rest)) :
    ∃ name, cs = name ++ ':' :: rest ∧ scheme = String.ofList (Text.lowerChars name) ∧
      (∃ first ∈ name.head?, Text.isAsciiLetter first = true) ∧
      ∀ c ∈ name, isSchemeChar c = true := by
  unfold splitScheme? at split_off
  dsimp only at split_off
  split at split_off
  case h_2 => cases split_off
  case h_1 first others rest' taken left =>
    split_ifs at split_off with letter
    cases split_off
    refine ⟨cs.takeWhile isSchemeChar, ?_, by rw [taken], ⟨first, by rw [taken]; rfl, letter⟩,
      fun c member => List.mem_takeWhile_imp member⟩
    rw [drop_length_takeWhile] at left
    rw [← left, List.takeWhile_append_dropWhile]

namespace WebText

variable (text : WebText) {s : String}

theorem read_eq (same : relevant s = text.chars) :
    read s = (authority .web text.scheme text.place text.tail).map fun found =>
      ofParts .web text.scheme found.1 found.2 (pathAfterHost .web) text.tail := by
  obtain ⟨first, others, parts⟩ := List.exists_cons_of_ne_nil text.inhabited
  have behind : (text.slashes ++ (text.place ++ text.tail)).dropWhile (isSlash .web) =
      text.place ++ text.tail := by
    have solid := not_isSlash (text.unended first (parts ▸ List.mem_cons_self))
    rw [List.dropWhile_append_of_pos text.slashes_chars, parts, List.cons_append,
      List.dropWhile_cons_of_neg (by simp [solid])]
  have unended : ∀ c ∈ text.place, (!endsHost .web c) = true := by
    intro c member
    simp [text.unended c member]
  have taken : (text.place ++ text.tail).takeWhile (fun c => !endsHost .web c) = text.place := by
    have ended := text.ended
    rw [List.takeWhile_append_of_pos unended]
    cases tail : text.tail with
    | nil => exact List.append_nil _
    | cons c cs =>
      rw [tail] at ended
      rw [List.takeWhile_cons_of_neg (by simp [ended c rfl]), List.append_nil]
  have cut : relevant s = text.name ++ ':' :: (text.slashes ++ (text.place ++ text.tail)) := by
    rw [same, chars, front]
    simp only [List.append_assoc, List.cons_append]
  have split_off := splitScheme?_append (text.slashes ++ (text.place ++ text.tail))
    text.name_head text.name_chars
  rw [← cut] at split_off
  simp only [read, split_off, text.web]
  rw [behind, ofAuthority]
  simp only [taken, List.drop_left]
  change (authority .web text.scheme text.place text.tail).bind _ = _
  cases authority .web text.scheme text.place text.tail <;> rfl

end WebText

theorem scheme_ofParts (kind : Kind) (scheme : String) (host : Option Host) (port : Option Nat)
    (path : List Char → List Char) (cs : List Char) :
    (ofParts kind scheme host port path cs).scheme = scheme := rfl

theorem exists_of_ofAuthority {kind : Kind} {scheme : String} {cs : List Char} {url : Url}
    (described : ofAuthority kind scheme cs = .ok url) :
    ∃ found, authority kind scheme (cs.takeWhile (!endsHost kind ·))
        (cs.dropWhile (!endsHost kind ·)) = .ok found ∧
      url = ofParts kind scheme found.1 found.2 (pathAfterHost kind)
        (cs.dropWhile (!endsHost kind ·)) := by
  unfold ofAuthority at described
  dsimp only at described
  rw [drop_length_takeWhile] at described
  obtain ⟨found, located, made⟩ := ok_of_bind described
  cases made
  exact ⟨found, located, rfl⟩

theorem scheme_of_ofFile {scheme : String} {cs : List Char} {url : Url}
    (described : ofFile scheme cs = .ok url) : url.scheme = scheme := by
  unfold ofFile at described
  split at described
  · dsimp only at described
    split_ifs at described
    · cases described
      exact scheme_ofParts ..
    · obtain ⟨host, -, made⟩ := ok_of_bind described
      cases made
      exact scheme_ofParts ..
    · cases described
      exact scheme_ofParts ..
  · cases described
    exact scheme_ofParts ..

theorem scheme_of_ofOther {scheme : String} {cs : List Char} {url : Url}
    (described : ofOther scheme cs = .ok url) : url.scheme = scheme := by
  unfold ofOther at described
  split at described
  · obtain ⟨found, -, rfl⟩ := exists_of_ofAuthority described
    exact scheme_ofParts ..
  · cases described
    exact scheme_ofParts ..
  · cases described
    exact scheme_ofParts ..

/-- The text of a scheme and what follows it, cut before the host and behind it. -/
theorem exists_webText_of_ofAuthority {s : String} {url : Url} {name rest : List Char}
    (parts : relevant s = name ++ ':' :: rest)
    (name_head : ∃ first ∈ name.head?, Text.isAsciiLetter first = true)
    (name_chars : ∀ c ∈ name, isSchemeChar c = true)
    (web : Kind.ofScheme (String.ofList (Text.lowerChars name)) = .web)
    (described : ofAuthority .web (String.ofList (Text.lowerChars name))
      (rest.dropWhile (isSlash .web)) = .ok url) : ∃ text : WebText, relevant s = text.chars := by
  obtain ⟨found, located, -⟩ := exists_of_ofAuthority described
  set behind := rest.dropWhile (isSlash .web)
  have inhabited : behind.takeWhile (!endsHost .web ·) ≠ [] := by
    intro none_there
    rw [none_there] at located
    obtain ⟨-, -, -, -, named, -⟩ := authority_web_eq_ok_iff.mp located
    exact named rfl
  let text : WebText :=
    { name, name_head, name_chars, web, inhabited
      slashes := rest.takeWhile (isSlash .web)
      place := behind.takeWhile (!endsHost .web ·)
      tail := behind.dropWhile (!endsHost .web ·)
      slashes_chars := fun c member => List.mem_takeWhile_imp member
      unended := fun c member => by
        have solid := List.mem_takeWhile_imp member
        simpa using solid
      ended := fun c first => by
        have marks := head_dropWhile c first
        simpa using marks }
  have slashes_cut : rest.takeWhile (isSlash .web) ++ behind = rest :=
    List.takeWhile_append_dropWhile
  have place_cut : behind.takeWhile (!endsHost .web ·) ++ behind.dropWhile (!endsHost .web ·) =
      behind := List.takeWhile_append_dropWhile
  refine ⟨text, ?_⟩
  simp only [WebText.chars, WebText.front, List.append_assoc, List.cons_append, text]
  rw [place_cut, slashes_cut, parts]

theorem exists_webText {s : String} {url : Url} (described : read s = .ok url)
    (web : Kind.ofScheme url.scheme = .web) : ∃ text : WebText, relevant s = text.chars := by
  unfold read at described
  split at described
  case h_1 => cases described
  case h_2 scheme rest split_off =>
    obtain ⟨name, parts, rfl, head, chars⟩ := exists_of_splitScheme? split_off
    split at described
    case h_1 kind => exact exists_webText_of_ofAuthority parts head chars kind described
    case h_2 kind =>
      rw [scheme_of_ofFile described, kind] at web
      cases web
    case h_3 kind =>
      rw [scheme_of_ofOther described, kind] at web
      cases web

namespace WebText

variable (text : WebText) {s : String}

/-- The text of a URL with something else after the host. -/
theorem read_of_front {url : Url} (described : read s = .ok url) (same : relevant s = text.chars)
    {tail : List Char} (ended : ∀ c ∈ tail.head?, endsHost .web c = true) {other : String}
    (changed : relevant other = text.front ++ tail) :
    read other = .ok { url with
      path := pathAfterHost .web (splitQuery tail).1
      query := (splitQuery tail).2.map (Text.percentEscaped (isQueryChar .web)) } := by
  rw [text.read_eq same] at described
  cases located : authority .web text.scheme text.place text.tail with
  | error flaw =>
    rw [located] at described
    cases described
  | ok found =>
    rw [located] at described
    cases described
    -- What follows the host does not matter to it.
    have again : authority .web text.scheme text.place tail = .ok found :=
      authority_web_eq_ok_iff.mpr (authority_web_eq_ok_iff.mp located)
    rw [(text.withTail tail ended).read_eq changed]
    change (authority .web text.scheme text.place tail).map _ = _
    rw [again]
    rfl

theorem read_of_plain {url : Url} (described : read s = .ok url) (same : relevant s = text.chars)
    {tail : List Char} (plain : ∀ c ∈ tail, endsPath c = false)
    (ended : ∀ c ∈ tail.head?, endsHost .web c = true) {other : String}
    (changed : relevant other = text.front ++ tail) :
    read other = .ok { url with path := pathAfterHost .web tail, query := none } := by
  have found := text.read_of_front described same ended changed
  rw [splitQuery_of_plain plain] at found
  exact found

theorem path_eq {url : Url} (described : read s = .ok url) (same : relevant s = text.chars) :
    url.path = pathAfterHost .web (splitQuery text.tail).1 := by
  have again := text.read_of_front described same text.ended same
  rw [described] at again
  exact congrArg Url.path (Except.ok.inj again)

theorem chars_ne_nil : text.chars ≠ [] := by
  simp [chars, front]

/-- What follows the host starts as it does with anything else after it. -/
theorem ended_append {tail before after : List Char} (parts : text.tail = tail ++ before)
    (ends : ∀ c ∈ after.head?, endsHost .web c = true) :
    ∀ c ∈ (tail ++ after).head?, endsHost .web c = true := by
  cases tail with
  | nil => exact ends
  | cons d tail =>
    intro c first
    exact text.ended c (by rw [parts]; exact first)

theorem read_append {url : Url} (described : read s = .ok url) (same : relevant s = text.chars)
    {base page : String} {tail before cs : List Char} (front : body base = text.front ++ tail)
    (parts : text.tail = tail ++ before) (plain : ∀ c ∈ tail, endsPath c = false)
    (rooted : page.toList = '/' :: cs) (solid : ∀ c ∈ page.toList, isMargin c = false)
    (page_plain : ∀ c ∈ page.toList, endsPath c = false) :
    read (base ++ page) =
      .ok { url with path := pathAfterHost .web (tail ++ page.toList), query := none } := by
  have slash : ∀ c ∈ page.toList.head?, endsHost .web c = true := by
    intro c first
    rw [rooted] at first
    cases first
    rfl
  refine text.read_of_plain described same ?_ (text.ended_append parts slash) ?_
  · intro c member
    exact (List.mem_append.mp member).elim (plain c) (page_plain c)
  · rw [relevant_append _ _ (by rw [rooted]; exact List.cons_ne_nil _ _) solid, front,
      List.append_assoc]

/-- Blanks after the host would be part of it. -/
theorem read_ne_ok {blanks rest : List Char} (some_blank : blanks ≠ [])
    (blank : ∀ c ∈ blanks, isMargin c = true) (ended : ∀ c ∈ rest.head?, endsHost .web c = true)
    (changed : relevant s = text.front ++ blanks ++ rest) (url : Url) : read s ≠ .ok url := by
  let wider : WebText :=
    { text with
      place := text.place ++ blanks
      tail := rest
      inhabited := List.append_ne_nil_of_left_ne_nil text.inhabited _
      unended := fun c member => (List.mem_append.mp member).elim (text.unended c) fun listed =>
        endsHost_of_isMargin (blank c listed)
      ended }
  have whole : relevant s = wider.chars := by
    rw [changed]
    simp only [chars, front, wider, List.append_assoc, List.cons_append]
  rw [wider.read_eq whole]
  intro described
  cases located : authority .web wider.scheme wider.place wider.tail with
  | error flaw =>
    rw [located] at described
    cases described
  | ok found => exact authority_append_ne_ok text.unended some_blank blank found located

theorem isPath_of_plain {tail rest : List Char} (parts : text.tail = tail ++ rest)
    (plain : ∀ c ∈ tail, endsPath c = false) : IsPath tail := by
  intro c first
  refine isSlash_of_endsHost (text.ended c ?_) (plain c (List.mem_of_mem_head? first))
  rw [parts, List.head?_append, Option.mem_def.mp first]
  rfl

/-- The front ends in a character of the host. -/
theorem isSlash_of_getLast_front : ∀ c ∈ text.front.getLast?, isSlash .web c = false := by
  intro c last
  have whole : text.front = (text.name ++ ':' :: text.slashes) ++ text.place := by
    rw [front, List.append_assoc, List.cons_append]
  rw [whole, List.getLast?_append_of_ne_nil _ text.inhabited] at last
  exact not_isSlash (text.unended c (List.mem_of_getLast? last))

theorem not_mem_front {c : Char} (marks : endsPath c = true) : c ∉ text.front := by
  have apart : isSchemeChar c = false ∧ c ≠ ':' ∧ isSlash .web c = false ∧
      endsHost .web c = true := by
    rw [endsPath, Bool.or_eq_true, beq_iff_eq, beq_iff_eq] at marks
    obtain rfl | rfl := marks <;> decide
  obtain ⟨odd, colon, slash, ends⟩ := apart
  rw [front, List.mem_append, List.mem_cons, List.mem_append]
  rintro (named | named | named | named)
  · rw [text.name_chars c named] at odd
    cases odd
  · exact colon named
  · rw [text.slashes_chars c named] at slash
    cases slash
  · rw [text.unended c named] at ends
    cases ends

theorem chars_eq_append_replicate {cs : List Char} {n : Nat}
    (same : text.chars = cs ++ List.replicate n '/') :
    ∃ tail, cs = text.front ++ tail ∧ text.tail = tail ++ List.replicate n '/' := by
  obtain ⟨tail, parts, left⟩ | ⟨more, parts, left⟩ := List.append_eq_append_iff.mp same
  · exact ⟨tail, parts, left⟩
  · obtain rfl | ⟨init, c, rfl⟩ := List.eq_nil_or_concat' more
    · exact ⟨[], by simpa using parts.symm, left.symm⟩
    · have slash : c = '/' := by
        refine List.eq_of_mem_replicate (n := n) ?_
        rw [left]
        simp
      have solid := text.isSlash_of_getLast_front c (by rw [parts]; simp)
      rw [slash] at solid
      cases solid

theorem chars_eq_append_cons {before after : List Char} {mark : Char}
    (same : text.chars = before ++ mark :: after) (marks : endsPath mark = true) :
    ∃ tail, before = text.front ++ tail ∧ text.tail = tail ++ mark :: after := by
  obtain ⟨tail, parts, left⟩ | ⟨more, parts, left⟩ := List.append_eq_append_iff.mp same
  · exact ⟨tail, parts, left⟩
  · cases more with
    | nil => exact ⟨[], by simpa using parts.symm, left.symm⟩
    | cons c more =>
      obtain ⟨rfl, -⟩ := List.cons.inj left
      exact absurd (parts ▸ List.mem_append_right _ List.mem_cons_self) (text.not_mem_front marks)

end WebText

end Vouch.Url
