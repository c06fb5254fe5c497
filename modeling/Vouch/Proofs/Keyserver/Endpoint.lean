import Mathlib.Data.List.DropRight
import Mathlib.Tactic
import Vouch.Proofs.Keyserver.Config
import Vouch.Proofs.Keyserver.Lookup
import Vouch.Proofs.Url.Parts
import Vouch.Proofs.Url.Path

/-!
Where lookups go.

The address of a lookup is read from the text of the server with a page written behind it.  A server
is accepted for its own address only, though.  A page behind a query, a fragment or a blank is no
page of the server.
-/

namespace Vouch.Keyserver

open Url (endsHost endsPath folder isSlash joined WebText)

/-- The address of a lookup: the page of the configured server with just these pairs. -/
structure IsLookup (configured : Url) (op term : String) (url : Url) : Prop
    extends SameServer configured url where
  path : url.path = configured.path.rdropWhile (· == '/') ++ "/pks/lookup".toList
  query : url.query.map Url.Form.pairs = some [("op", op), ("options", "mr"), ("search", term)]

/-- Whatever is written behind the text of the server is a page of it. -/
structure TakesPages (server : String) : Prop where
  plain : ∀ c ∈ server.toList, endsPath c = false
  /-- There is nothing at the end that would become part of the host or path. -/
  marginless : Url.margin server = []
  /-- Working off the path leaves no empty segment at its end. -/
  closed : ∀ url, Url.read (Text.withoutTrailingSlashes server ++ "/") = .ok url →
    ¬ "//".toList <:+ url.path

/-! ### Texts of servers -/

theorem exists_slashes (server : String) :
    ∃ n, server.toList = (Text.withoutTrailingSlashes server).toList ++ List.replicate n '/' := by
  have all : server.toList.rtakeWhile (· == '/') =
      List.replicate (server.toList.rtakeWhile (· == '/')).length '/' := by
    refine List.eq_replicate_of_mem fun c member => ?_
    have slash := List.mem_rtakeWhile_imp member
    exact beq_iff_eq.mp slash
  refine ⟨(server.toList.rtakeWhile (· == '/')).length, ?_⟩
  rw [Text.withoutTrailingSlashes, String.toList_ofList]
  change _ = server.toList.rdropWhile (· == '/') ++ _
  rw [← all, List.rdropWhile_append_rtakeWhile]

variable {server : String} {configured url : Url} {n : Nat}

theorem withoutTrailingSlashes_eq_self
    (slashes : server.toList = (Text.withoutTrailingSlashes server).toList ++ List.replicate n '/')
    (blanks : Url.margin server ≠ []) : Text.withoutTrailingSlashes server = server := by
  cases n with
  | zero => exact String.toList_injective (by simpa using slashes.symm)
  | succ n =>
    refine absurd ?_ blanks
    rw [Url.margin, slashes, List.replicate_succ', ← List.append_assoc,
      List.rtakeWhile_concat_neg _ _ _ (by decide)]
    rfl

/-- The slashes at the end matter like all characters before them. -/
theorem relevant_eq_append (inhabited : Url.relevant server ≠ [])
    (slashes : server.toList = (Text.withoutTrailingSlashes server).toList ++ List.replicate n '/')
    (marginless : Url.margin server = []) : Url.relevant server =
      Url.body (Text.withoutTrailingSlashes server) ++ List.replicate n '/' := by
  cases n with
  | zero =>
    have same : Text.withoutTrailingSlashes server = server :=
      String.toList_injective (by simpa using slashes.symm)
    rw [same, Url.body_eq inhabited, marginless, List.append_nil, List.replicate_zero,
      List.append_nil]
  | succ n =>
    have parts : server = Text.withoutTrailingSlashes server ++
        String.ofList (List.replicate (n + 1) '/') :=
      String.toList_injective (by rw [String.toList_append, String.toList_ofList, slashes])
    have solid : ∀ c ∈ List.replicate (n + 1) '/', Url.isMargin c = false := by
      intro c member
      rw [List.eq_of_mem_replicate member]
      rfl
    have read := Url.relevant_append (Text.withoutTrailingSlashes server)
      (String.ofList (List.replicate (n + 1) '/')) (by simp) (by rwa [String.toList_ofList])
    rw [← parts, String.toList_ofList] at read
    exact read

/-! ### What is written behind a server -/

/-- The page is not there already. -/
theorem ne_rdropWhile_append (cs : List Char) :
    cs ≠ cs.rdropWhile (· == '/') ++ "/pks/lookup".toList := by
  intro same
  have parts : cs.rdropWhile (· == '/') ++ cs.rtakeWhile (· == '/') =
      cs.rdropWhile (· == '/') ++ "/pks/lookup".toList := by
    rw [List.rdropWhile_append_rtakeWhile, ← same]
  have letter : 'k' ∈ cs.rtakeWhile (· == '/') := by
    rw [List.append_cancel_left parts]
    decide
  cases List.mem_rtakeWhile_imp letter

variable (text : WebText) (same : Url.relevant server = text.chars)

include same in
theorem plain_tail (plain : ∀ c ∈ server.toList, endsPath c = false) :
    ∀ c ∈ text.tail, endsPath c = false := by
  intro c member
  refine plain c (Url.mem_of_mem_relevant ?_)
  rw [same]
  exact List.mem_append_right _ member

variable (described : Url.read server = .ok configured)

include described same

/-- What is written behind a query or a fragment is no part of the path. -/
theorem exists_of_endsPath {mark : Char} (listed : mark ∈ server.toList)
    (marks : endsPath mark = true) {page : String}
    (read : Url.read (Text.withoutTrailingSlashes server ++ page) = .ok url) :
    ∃ query, url = { configured with query } := by
  have solid : Url.isMargin mark = false ∧ mark ≠ '/' ∧ endsHost .web mark = true := by
    rw [endsPath, Bool.or_eq_true, beq_iff_eq, beq_iff_eq] at marks
    obtain rfl | rfl := marks <;> decide
  obtain ⟨n, slashes⟩ := exists_slashes server
  have inside : mark ∈ (Text.withoutTrailingSlashes server).toList := by
    rw [slashes, List.mem_append] at listed
    exact listed.resolve_right fun slash => solid.2.1 (List.eq_of_mem_replicate slash)
  obtain ⟨before, after, parts⟩ := List.append_of_mem inside
  have own : server.toList = before ++ mark :: (after ++ List.replicate n '/') := by
    rw [slashes, parts, List.append_assoc, List.cons_append]
  have paged : (Text.withoutTrailingSlashes server ++ page).toList =
      before ++ mark :: (after ++ page.toList) := by
    rw [String.toList_append, parts, List.append_assoc, List.cons_append]
  obtain ⟨rest, whole⟩ := Url.relevant_of_append_cons own solid.1
  obtain ⟨rest', longer⟩ := Url.relevant_of_append_cons paged solid.1
  rw [same] at whole
  obtain ⟨tail, front, left⟩ := text.chars_eq_append_cons whole marks
  rw [front, List.append_assoc] at longer
  have ended := text.ended_append left (show ∀ c ∈ (mark :: rest').head?, endsHost .web c = true by
    simpa using solid.2.2)
  have described' := text.read_of_front described same ended longer
  rw [read] at described'
  have path := text.path_eq described same
  rw [left, Url.splitQuery_append_cons marks] at path
  rw [Url.splitQuery_append_cons marks, ← path] at described'
  exact ⟨_, Except.ok.inj described'⟩

/-- A page behind a blank lies too deep, if it can be requested at all. -/
theorem exists_of_margin (plain : ∀ c ∈ server.toList, endsPath c = false)
    (blanks : Url.margin server ≠ [])
    (read : Url.read (server ++ "/pks/lookup") = .ok url) :
    ∃ path, url = { configured with path, query := none } ∧
      configured.path.length + "/pks/lookup".toList.length < path.length := by
  have inhabited : Url.relevant server ≠ [] := same ▸ text.chars_ne_nil
  have longer := Url.relevant_append server "/pks/lookup" (by simp)
    (by simp [Url.isMargin])
  rw [Url.body_eq inhabited, same, WebText.chars] at longer
  have blank : ∀ c ∈ Url.margin server, Url.isMargin c = true :=
    fun c member => Url.isMargin_of_mem_margin member
  have plain' := plain_tail text same plain
  cases left : text.tail with
  | nil =>
    rw [left, List.append_nil] at longer
    exact absurd read
      (text.read_ne_ok blanks blank (by simp [endsHost, isSlash]) longer url)
  | cons c cs =>
    rw [left] at plain' longer
    have slash := Url.isSlash_of_endsHost (text.ended c (by rw [left]; rfl))
      (plain' c List.mem_cons_self)
    have page_plain : ∀ d ∈ "/pks/lookup".toList, endsPath d = false := by
      simp [endsPath]
    have all_plain : ∀ d ∈ c :: cs ++ Url.margin server ++ "/pks/lookup".toList,
        endsPath d = false := by
      intro d member
      obtain (listed | listed) | listed := by
        simpa only [List.mem_append] using member
      · exact plain' d listed
      · exact Url.endsPath_of_isMargin (blank d listed)
      · exact page_plain d listed
    have described' := text.read_of_plain described same all_plain
      (fun d first => text.ended d (by rw [left]; exact first))
      (longer.trans (by simp only [List.append_assoc, List.cons_append]))
    rw [read] at described'
    refine ⟨_, Except.ok.inj described', ?_⟩
    rw [text.path_eq described same, left, Url.splitQuery_of_plain plain']
    exact Url.length_pathAfterHost_lt slash cs blanks blank

theorem exists_pages (plain : ∀ c ∈ server.toList, endsPath c = false)
    (marginless : Url.margin server = []) :
    ∃ place m, configured.path = place ++ List.replicate m '/' ∧
      Url.read (Text.withoutTrailingSlashes server ++ "/") =
        .ok { configured with path := place ++ ['/'], query := none } ∧
      Url.read (Text.withoutTrailingSlashes server ++ "/pks/lookup") =
        .ok { configured with path := place ++ "/pks/lookup".toList, query := none } := by
  have inhabited : Url.relevant server ≠ [] := same ▸ text.chars_ne_nil
  obtain ⟨n, slashes⟩ := exists_slashes server
  have whole := relevant_eq_append inhabited slashes marginless
  rw [same] at whole
  obtain ⟨tail, front, left⟩ := text.chars_eq_append_replicate whole
  have plain' := plain_tail text same plain
  rw [left] at plain'
  have tail_plain : ∀ c ∈ tail, endsPath c = false :=
    fun c member => plain' c (List.mem_append_left _ member)
  have path := text.isPath_of_plain left tail_plain
  have folder_read := text.read_append described same front left tail_plain
    (show "/".toList = '/' :: [] from rfl) (by simp [Url.isMargin]) (by simp [endsPath])
  have page_read := text.read_append described same front left tail_plain
    (show "/pks/lookup".toList = '/' :: "pks/lookup".toList from rfl) (by simp [Url.isMargin])
    (by simp [endsPath])
  rw [Url.pathAfterHost_page path] at page_read
  rw [show tail ++ "/".toList = tail ++ List.replicate 1 '/' from rfl,
    Url.pathAfterHost_slashes path] at folder_read
  obtain ⟨m, own⟩ := Url.exists_pathAfterHost path n
  refine ⟨joined (folder tail), m, ?_, folder_read, page_read⟩
  rw [text.path_eq described same, left, Url.splitQuery_of_plain plain', own]

theorem page_cases
    (read : Url.read (Text.withoutTrailingSlashes server ++ "/pks/lookup") = .ok url) :
    (∃ query, url = { configured with query }) ∨
      (∃ path, url = { configured with path, query := none } ∧
        configured.path.length + "/pks/lookup".toList.length < path.length) ∨
      ((∀ c ∈ server.toList, endsPath c = false) ∧ Url.margin server = [] ∧
        ∃ place m, configured.path = place ++ List.replicate m '/' ∧
          Url.read (Text.withoutTrailingSlashes server ++ "/") =
            .ok { configured with path := place ++ ['/'], query := none } ∧
          url = { configured with path := place ++ "/pks/lookup".toList, query := none }) := by
  by_cases plain : ∀ c ∈ server.toList, endsPath c = false
  · by_cases marginless : Url.margin server = []
    · obtain ⟨place, m, own, folder_read, page_read⟩ :=
        exists_pages text same described plain marginless
      rw [read] at page_read
      exact .inr (.inr ⟨plain, marginless, place, m, own, folder_read, Except.ok.inj page_read⟩)
    · obtain ⟨n, slashes⟩ := exists_slashes server
      rw [withoutTrailingSlashes_eq_self slashes marginless] at read
      exact .inr (.inl (exists_of_margin text same described plain marginless read))
  · push Not at plain
    obtain ⟨mark, listed, marks⟩ := plain
    exact .inl (exists_of_endsPath text same described listed (by simpa using marks) read)

theorem takesPages_of_path
    (read : Url.read (Text.withoutTrailingSlashes server ++ "/pks/lookup") = .ok url)
    (path : url.path = configured.path.rdropWhile (· == '/') ++ "/pks/lookup".toList) :
    TakesPages server := by
  obtain ⟨query, rfl⟩ | ⟨deep, rfl, deeper⟩ |
    ⟨plain, marginless, place, m, own, folder_read, rfl⟩ := page_cases text same described read
  · exact absurd path (ne_rdropWhile_append _)
  · have fits := (List.rdropWhile_prefix (p := (· == '/')) (l := configured.path)).length_le
    have size := congrArg List.length path
    rw [List.length_append] at size
    dsimp only at size
    omega
  · refine ⟨plain, marginless, fun url found => ?_⟩
    rw [folder_read] at found
    cases found
    rw [own, Url.rdropWhile_append_replicate] at path
    exact (Url.rdropWhile_eq_self_iff place).mp (List.append_cancel_right path).symm

theorem read_of_takesPages (takes : TakesPages server) :
    Url.read (Text.withoutTrailingSlashes server ++ "/pks/lookup") = .ok { configured with
      path := configured.path.rdropWhile (· == '/') ++ "/pks/lookup".toList
      query := none } := by
  obtain ⟨place, m, own, folder_read, page_read⟩ :=
    exists_pages text same described takes.plain takes.marginless
  have whole := (Url.rdropWhile_eq_self_iff place).mpr (takes.closed _ folder_read)
  rw [page_read, own, Url.rdropWhile_append_replicate, whole]

omit described same

/-! ### Lookups -/

variable {config : Config} {client : Client} {op term : String}

theorem exists_of_ofConfig (accepted : Client.ofConfig config = .ok client) :
    ∃ server configured, config.server = .ok server ∧ Url.read server = .ok configured ∧
      Url.Kind.ofScheme configured.scheme = .web ∧
      client.server = Text.withoutTrailingSlashes server := by
  obtain ⟨valid, server, selected, rfl⟩ := Config.exists_server accepted
  have known : server ∈ config.servers :=
    List.mem_of_getElem? (Config.server_eq_ok_iff.mp selected)
  obtain ⟨configured, described, scheme⟩ :=
    Config.exists_web (Config.usable_of_validate valid server known)
  refine ⟨server, configured, selected, described, ?_, rfl⟩
  obtain scheme | scheme := scheme <;> rw [scheme] <;> rfl

/-- Lookups never leave the configured server.  They reach the page of it with the right pairs just
if the server takes pages. -/
theorem lookupRequest_iff_takesPages (accepted : Client.ofConfig config = .ok client) :
    ∃ server configured, config.server = .ok server ∧ Url.read server = .ok configured ∧
      ∀ op term,
        (∀ url, client.lookupRequest op term = .ok (.get url) → SameServer configured url) ∧
        ((∃ url, client.lookupRequest op term = .ok (.get url) ∧
          IsLookup configured op term url) ↔ TakesPages server) := by
  obtain ⟨server, configured, selected, described, web, base⟩ := exists_of_ofConfig accepted
  obtain ⟨text, same⟩ := Url.exists_webText described web
  refine ⟨server, configured, selected, described, fun op term => ⟨?_, ?_⟩⟩
  · intro url asked
    obtain ⟨page, read, rfl⟩ := Client.lookupRequest_eq_ok_iff.mp asked
    rw [base] at read
    obtain ⟨_, rfl⟩ | ⟨_, rfl, -⟩ | ⟨-, -, _, _, -, -, rfl⟩ := page_cases text same described read
    all_goals exact ⟨rfl, rfl, rfl⟩
  constructor
  · rintro ⟨url, asked, law⟩
    obtain ⟨page, read, rfl⟩ := Client.lookupRequest_eq_ok_iff.mp asked
    rw [base] at read
    exact takesPages_of_path text same described read law.path
  · intro takes
    have read := read_of_takesPages text same described takes
    rw [← base] at read
    exact ⟨_, Client.lookupRequest_eq_ok_iff.mpr ⟨_, read, rfl⟩, ⟨rfl, rfl, rfl⟩, rfl,
      congrArg some (Url.Form.pairs_chars _)⟩

/-- The server that is used without a configuration takes pages. -/
theorem lookups_of_standard :
    Client.ofConfig .standard = .ok ⟨.standard, "https://keyserver.ubuntu.com"⟩ ∧
      ∀ op term, ∃ url,
        Client.lookupRequest ⟨.standard, "https://keyserver.ubuntu.com"⟩ op term =
          .ok (.get url) ∧
        IsLookup ⟨"https", some (.domain "keyserver.ubuntu.com"), none, ['/'], none⟩ op term
          url := by
  have accepted : Client.ofConfig .standard = .ok ⟨.standard, "https://keyserver.ubuntu.com"⟩ := rfl
  obtain ⟨server, configured, selected, described, law⟩ := lookupRequest_iff_takesPages accepted
  obtain rfl : "https://keyserver.ubuntu.com" = server := Except.ok.inj selected
  obtain rfl : ⟨"https", some (.domain "keyserver.ubuntu.com"), none, ['/'], none⟩ = configured :=
    Except.ok.inj described
  have takes : TakesPages "https://keyserver.ubuntu.com" := by
    refine ⟨by simp [endsPath], rfl, ?_⟩
    intro url found
    obtain rfl : ⟨"https", some (.domain "keyserver.ubuntu.com"), none, ['/'], none⟩ = url :=
      Except.ok.inj found
    decide
  exact ⟨accepted, fun op term => (law op term).2.mpr takes⟩

/-- A configuration with a server whose text ends in a query. -/
def openEnded : Config :=
  { Config.standard with servers := ["https://keys.openpgp.org/?op=index&to="] }

/-- The page of such a server becomes a part of the query. -/
theorem exists_absorbed_page :
    ∃ client configured url, Client.ofConfig openEnded = .ok client ∧
      Url.read "https://keys.openpgp.org/?op=index&to=" = .ok configured ∧
      client.lookupRequest "get" "0x0123456789ABCDEF" = .ok (.get url) ∧
      url.target = "/?op=index&to=/pks/lookup&op=get&options=mr&search=0x0123456789ABCDEF" ∧
      ¬IsLookup configured "get" "0x0123456789ABCDEF" url := by
  refine ⟨⟨openEnded, "https://keys.openpgp.org/?op=index&to="⟩,
    ⟨"https", some (.domain "keys.openpgp.org"), none, ['/'], some "op=index&to=".toList⟩,
    ⟨"https", some (.domain "keys.openpgp.org"), none, ['/'],
      some "op=index&to=/pks/lookup&op=get&options=mr&search=0x0123456789ABCDEF".toList⟩,
    rfl, rfl, rfl, rfl, fun law => ?_⟩
  have path : ['/'] = ['/'].rdropWhile (· == '/') ++ "/pks/lookup".toList := law.path
  revert path
  decide

end Vouch.Keyserver
