import Vouch.Text.Percent
import Vouch.Text.Search

/-!
Named texts as forms send them: `name=text` with ampersands between the pairs.

A blank is written as a plus sign, and every other character than letters, digits and a few signs
is written as the escapes of its bytes.
-/

namespace Vouch.Url.Form

def isPlain (c : Char) : Bool :=
  Text.isAsciiLetter c || c.isDigit || c == '*' || c == '-' || c == '.' || c == '_'

def encodeChars (cs : List Char) : List Char :=
  (Text.percentEscaped (fun c => c == ' ' || isPlain c) cs).map fun c => if c == ' ' then '+' else c

def pairChars (pair : String × String) : List Char :=
  encodeChars pair.1.toList ++ '=' :: encodeChars pair.2.toList

def chars (pairs : List (String × String)) : List Char :=
  ['&'].intercalate (pairs.map pairChars)

/-- The text that a written form stands for; a form whose bytes are not UTF-8 stands for itself. -/
def decodeChars (cs : List Char) : String :=
  let blanks := cs.map fun c => if c == '+' then ' ' else c
  Text.unescaped (String.ofList blanks)

def pairOf (cs : List Char) : String × String :=
  (decodeChars (cs.takeWhile (· != '=')), decodeChars ((cs.dropWhile (· != '=')).drop 1))

def pairs (cs : List Char) : List (String × String) :=
  ((Text.pieces '&' cs).filter (!·.isEmpty)).map pairOf

end Vouch.Url.Form
