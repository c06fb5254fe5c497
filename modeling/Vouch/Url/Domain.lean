import Vouch.Text.Fold
import Vouch.Text.Plain
import Vouch.Text.Search
import Vouch.Url.Punycode

/-!
Domain names as hosts: labels with dots between them, in ASCII and small letters.

A label with other characters is written in Punycode after `xn--`.  Characters are folded to small
letters first, full-width forms to their common ones; a few invisible ones are left out.
-/

namespace Vouch.Url.Domain

/-- Characters that a domain name passes over. -/
def isIgnored (c : Char) : Bool :=
  let n := c.toNat
  n == 0xAD || n == 0x34F || (0x180B ≤ n && n ≤ 0x180D) || n == 0x200B || n == 0x2060 ||
    n == 0x2064 || (0xFE00 ≤ n && n ≤ 0xFE0F) || n == 0xFEFF

def isFullStop (c : Char) : Bool :=
  let n := c.toNat
  n == 0x3002 || n == 0xFF0E || n == 0xFF61

def mapped (c : Char) : List Char :=
  if isIgnored c then []
  else if isFullStop c then ['.']
  else
    let n := c.toNat
    let common := if 0xFF01 ≤ n ∧ n ≤ 0xFF5E then Char.ofNat (n - 0xFEE0) else c
    [Text.folded common]

def isForbiddenAscii (c : Char) : Bool :=
  c.toNat ≤ 0x20 || c.toNat == 0x7F || "%#/:<>?@[\\]^|".toList.contains c

def replacement : Char := Char.ofNat 0xFFFD

def isAllowed (c : Char) : Bool :=
  if c.toNat < 0x80 then !isForbiddenAscii c else c != replacement && Text.isPlain c

def mark : List Char := ['x', 'n', '-', '-']

def isForeign (c : Char) : Bool :=
  0x80 ≤ c.toNat

/-- The text of a label in Punycode can be a label, and needs to be written that way. -/
def isWorthMarking (text : List Char) : Bool :=
  text.any isForeign && text.all (fun c => isAllowed c && mapped c == [c])

def label? (cs : List Char) : Option (List Char) :=
  if !cs.all isAllowed then none
  else if cs.any isForeign then
    if mark.isPrefixOf cs then none else some (mark ++ Punycode.encode cs)
  else
    match Text.afterLeading? mark cs with
    | none => some cs
    | some written =>
      match Punycode.decode? written with
      | some text => if isWorthMarking text then some cs else none
      | none => none

def written? (cs : List Char) : Option (List Char) := do
  let labels ← (Text.pieces '.' (cs.flatMap mapped)).mapM label?
  return ['.'].intercalate labels

end Vouch.Url.Domain
