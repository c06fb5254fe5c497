import Vouch.Text.Ascii
import Vouch.Text.Blank
import Vouch.Text.Search

/-!
Names of keys: fingerprints and key IDs.

A name may be spelled in either letter case, with blanks in it and with `0x` before it; its normal
form has none of these.  The long ID of a key is the last sixteen characters of its fingerprint.
-/

namespace Vouch.Key

def withoutMark (cs : List Char) : List Char :=
  match cs with
  | '0' :: 'x' :: rest | '0' :: 'X' :: rest => rest
  | _ => cs

def normalChars (cs : List Char) : List Char :=
  (Text.withoutBlanks (withoutMark (Text.trimChars cs))).map Char.toUpper

/-- The normal form of a name: upper case, without blanks and without one leading `0x`. -/
def normal (name : String) : String :=
  String.ofList (normalChars name.toList)

def isCanonicalDigit (c : Char) : Bool :=
  Text.isHexDigit c && !('a' ≤ c && c ≤ 'z')

/-- Forty hexadecimal digits without small letters. -/
def isFingerprint (name : String) : Bool :=
  name.toList.length == 40 && name.toList.all isCanonicalDigit

def lastSixteen (cs : List Char) : List Char :=
  cs.drop (cs.length - 16)

def longId (name : String) : String :=
  String.ofList (lastSixteen (normalChars name.toList))

def isKeyId (query : String) : Bool :=
  let digits := withoutMark (Text.trimChars query.toList)
  (digits.length == 8 || digits.length == 16 || digits.length == 40) && digits.all Text.isHexDigit

def isMarked (cs : List Char) : Bool :=
  match cs with
  | '0' :: 'x' :: _ | '0' :: 'X' :: _ => true
  | _ => false

def isBareKeyId (query : String) : Bool :=
  !isMarked (Text.trimChars query.toList) && isKeyId query

end Vouch.Key
