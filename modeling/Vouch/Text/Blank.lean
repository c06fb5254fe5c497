/-!
Blank characters and what is done with them: trimming the ends of a text and leaving blanks out.

A character is blank when it has the Unicode property White_Space, which holds of twenty-five
characters.  All functions work on lists of characters and have a form for strings beside them.
-/

namespace Vouch.Text

def isBlank (c : Char) : Bool :=
  let n := c.toNat
  (9 ≤ n && n ≤ 13) || n == 0x20 || n == 0x85 || n == 0xA0 || n == 0x1680 ||
    (0x2000 ≤ n && n ≤ 0x200A) || n == 0x2028 || n == 0x2029 || n == 0x202F ||
    n == 0x205F || n == 0x3000

def trimFront (cs : List Char) : List Char :=
  cs.dropWhile isBlank

def trimBack (cs : List Char) : List Char :=
  (cs.reverse.dropWhile isBlank).reverse

def trimChars (cs : List Char) : List Char :=
  trimBack (trimFront cs)

def trim (s : String) : String :=
  String.ofList (trimChars s.toList)

def withoutBlanks (cs : List Char) : List Char :=
  cs.filter (fun c => !isBlank c)

def isBlankText (s : String) : Bool :=
  s.toList.all isBlank

end Vouch.Text
