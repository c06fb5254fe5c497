import Vouch.Keyserver.Network

/-!
Scripts for a rehearsed keyserver: what it replies to which requests.

The rules of a script are tried in order.  The replies of a rule are used one after another, and
the last one serves for all further requests.
-/

namespace Vouch.Rehearsal

inductive Ending where
  | answer (status : Nat) (body : String)
  | failure (timedOut : Bool) (causes : List String) (knowsHost : Bool)
  | silence
  deriving DecidableEq, Repr

structure Move where
  ending : Ending
  /-- How long the reply takes, in milliseconds. -/
  delay : Nat
  /-- The user interrupts the program while it waits for the reply. -/
  interrupts : Bool
  deriving DecidableEq, Repr

def Move.unknownPage : Move := ⟨.answer 404 "", 0, false⟩

structure Rule where
  op : String
  term : Option String
  moves : List Move
  deriving DecidableEq, Repr

abbrev Script := List Rule

def Rule.isFor (rule : Rule) (op : String) (term : Option String) : Bool :=
  rule.op == op && (rule.term.isNone || rule.term == term)

def Rule.use (rule : Rule) : Move × Rule :=
  match rule.moves with
  | [] => (.unknownPage, rule)
  | [last] => (last, rule)
  | move :: rest => (move, { rule with moves := rest })

def Script.use (op : String) (term : Option String) : Script → Move × Script
  | [] => (.unknownPage, [])
  | rule :: rest =>
    if rule.isFor op term then
      let (move, rule) := rule.use
      (move, rule :: rest)
    else
      let (move, rest) := Script.use op term rest
      (move, rule :: rest)

end Vouch.Rehearsal
