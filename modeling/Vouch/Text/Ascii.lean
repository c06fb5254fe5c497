/-!
The ASCII part of the alphabet: hexadecimal digits and letter case.  Characters outside ASCII are
left as they are by every case change.
-/

namespace Vouch.Text

def isHexDigit (c : Char) : Bool :=
  c.isDigit || ('a' ≤ c && c ≤ 'f') || ('A' ≤ c && c ≤ 'F')

def hexValue? (c : Char) : Option Nat :=
  if c.isDigit then some (c.toNat - 48)
  else if 'a' ≤ c && c ≤ 'f' then some (c.toNat - 87)
  else if 'A' ≤ c && c ≤ 'F' then some (c.toNat - 55)
  else none

/-- The upper-case hexadecimal digit of a number below sixteen. -/
def hexDigit (n : Nat) : Char :=
  if n < 10 then Char.ofNat (48 + n) else Char.ofNat (55 + n)

def isAsciiLetter (c : Char) : Bool :=
  ('a' ≤ c && c ≤ 'z') || ('A' ≤ c && c ≤ 'Z')

def lowerChars (cs : List Char) : List Char :=
  cs.map Char.toLower

def lower (s : String) : String :=
  String.ofList (lowerChars s.toList)

def upper (s : String) : String :=
  String.ofList (s.toList.map Char.toUpper)

end Vouch.Text
