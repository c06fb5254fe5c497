import Mathlib.Tactic
import Vouch.Keyserver.Client
import Vouch.Proofs.Url.Form

/-!
What the request of a lookup asks for.

A lookup is a page of the server with an operation and a term in its query.  Whatever the text of the
server has in its query stands before these pairs, so a request looks up just one thing.
-/

namespace Vouch.Url

def queryPairs (url : Url) : List (String × String) :=
  Form.pairs (url.query.getD [])

theorem queryPairs_withPairs (url : Url) (added : List (String × String)) :
    (url.withPairs added).queryPairs = url.queryPairs ++ added := by
  unfold withPairs queryPairs
  cases url.query with
  | none => exact Form.pairs_chars added
  | some before =>
    cases before with
    | nil => exact Form.pairs_chars added
    | cons c cs =>
      calc
        Form.pairs (c :: cs ++ '&' :: Form.chars added) =
            Form.pairs (c :: cs) ++ Form.pairs (Form.chars added) := by
          simp only [Form.pairs, Text.pieces_append_cons, List.filter_append, List.map_append]
        _ = Form.pairs (c :: cs) ++ added := by rw [Form.pairs_chars]

end Vouch.Url

namespace Vouch.Keyserver

structure SameServer (configured url : Url) : Prop where
  scheme : url.scheme = configured.scheme
  host : url.host = configured.host
  port : url.port = configured.port

structure AsksPage (page : Url) (op term : String) (url : Url) : Prop
    extends SameServer page url where
  path : url.path = page.path
  pairs : url.queryPairs = page.queryPairs ++ [("op", op), ("options", "mr"), ("search", term)]

def Request.Queries (request : Request) (server op term : String) : Prop :=
  ∃ page url, Url.read (server ++ "/pks/lookup") = .ok page ∧ request = .get url ∧
    AsksPage page op term url

namespace Client

variable {client : Client} {op term : String} {request : Request}

theorem lookupRequest_eq_ok_iff {url : Url} : client.lookupRequest op term = .ok (.get url) ↔
    ∃ page, Url.read (client.server ++ "/pks/lookup") = .ok page ∧
      url = page.withPairs [("op", op), ("options", "mr"), ("search", term)] := by
  unfold Client.lookupRequest
  cases Url.read (client.server ++ "/pks/lookup") with
  | error flaw => simp
  | ok page => simpa using eq_comm

theorem queries_of_lookupRequest (made : client.lookupRequest op term = .ok request) :
    request.Queries client.server op term := by
  unfold lookupRequest at made
  cases read : Url.read (client.server ++ "/pks/lookup") with
  | error flaw =>
    rw [read] at made
    cases made
  | ok page =>
    rw [read] at made
    cases made
    exact ⟨page, _, read, rfl, ⟨rfl, rfl, rfl⟩, rfl, page.queryPairs_withPairs _⟩

theorem queries_iff (made : client.lookupRequest op term = .ok request) (other asked : String) :
    request.Queries client.server other asked ↔ other = op ∧ asked = term := by
  have own := queries_of_lookupRequest made
  constructor
  · rintro ⟨page, url, read, rfl, asks⟩
    obtain ⟨same, _, reads, ⟨⟩, means⟩ := own
    cases read.symm.trans reads
    have pairs := List.append_cancel_left (asks.pairs.symm.trans means.pairs)
    simpa using pairs
  · rintro ⟨rfl, rfl⟩
    exact own

theorem exists_lookupRequest_iff (client : Client) (op term : String) :
    (∃ request, client.lookupRequest op term = .ok request) ↔
      ∃ page, Url.read (client.server ++ "/pks/lookup") = .ok page := by
  unfold lookupRequest
  cases Url.read (client.server ++ "/pks/lookup") <;> simp

end Client

end Vouch.Keyserver
