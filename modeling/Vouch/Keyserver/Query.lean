import Vouch.Key.Name

/-!
What a keyserver is asked for.
-/

namespace Vouch.Keyserver

def solidCount (query : String) : Nat :=
  (Text.withoutBlanks query.toList).length

/-- The fewest characters other than blanks that a keyserver is asked for. -/
def leastSolid : Nat := 3

def isTooShort (query : String) : Bool :=
  solidCount query < leastSolid

def termFor (name : String) : String :=
  "0x" ++ Key.normal name

end Vouch.Keyserver
