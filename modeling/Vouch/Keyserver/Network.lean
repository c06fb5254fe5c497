import Vouch.Keyserver.Problem
import Vouch.Url.Basic

/-!
What passes between a client and the network.

Sending is left to the network.  It follows redirects, so what comes back for a request may be the last
reply of several, and it decodes the body, with a replacement character for each part of it that is not
UTF-8: a body is the text that the client gets, not the bytes that were sent.
-/

namespace Vouch.Keyserver

inductive Request where
  | get (url : Url)
  | post (address : String) (form : List (String × String))
  deriving DecidableEq, Repr

structure Failure where
  timedOut : Bool
  /-- What each layer says, the outermost first. -/
  causes : List String
  host : Option String
  deriving DecidableEq, Repr

inductive Reply where
  | answer (status : Nat) (body : String)
  | failure (failure : Failure)
  deriving DecidableEq, Repr

def Failure.problem (failure : Failure) : Problem :=
  .ofTransport failure.timedOut (joinedCauses failure.causes) (failure.host.getD "keyserver")

def isSuccess (status : Nat) : Bool :=
  200 ≤ status && status ≤ 299

def Reply.body (reply : Reply) (subject : String) : Except Problem String :=
  match reply with
  | .answer status body =>
    if isSuccess status then .ok body else .error (.ofReply status body subject)
  | .failure cause => .error cause.problem

end Vouch.Keyserver
