import Vouch.Text.Ascii

/-!
Percent escapes: a byte written as `%` and two hexadecimal digits.

Reading an escaped text is done on bytes.  A `%` without two digits after it stands for itself, and
a text whose bytes are not UTF-8 is left as it is.
-/

namespace Vouch.Text

def bytesOf (cs : List Char) : List UInt8 :=
  cs.flatMap String.utf8EncodeChar

def escapeByte (b : UInt8) : List Char :=
  ['%', hexDigit (b.toNat / 16), hexDigit (b.toNat % 16)]

/-- Characters with the bytes of those that may not stand for themselves escaped. -/
def percentEscaped (plain : Char → Bool) (cs : List Char) : List Char :=
  cs.flatMap fun c => if plain c then [c] else (String.utf8EncodeChar c).flatMap escapeByte

def escapedByte? (high low : Char) : Option UInt8 :=
  match hexValue? high, hexValue? low with
  | some h, some l => some (UInt8.ofNat (16 * h + l))
  | _, _ => none

def unescapedBytes : List Char → List UInt8
  | '%' :: high :: low :: rest =>
    match escapedByte? high low with
    | some b => b :: unescapedBytes rest
    | none => String.utf8EncodeChar '%' ++ unescapedBytes (high :: low :: rest)
  | c :: rest => String.utf8EncodeChar c ++ unescapedBytes rest
  | [] => []

def ofBytes? (bytes : List UInt8) : Option String :=
  String.fromUTF8? ⟨bytes.toArray⟩

/-- The text that a reader of escapes finds, or the text as it is if the reader finds none. -/
def unescapedBy (read? : String → Option String) (s : String) : String :=
  (read? s).getD s

def unescaped? (s : String) : Option String :=
  ofBytes? (unescapedBytes s.toList)

def unescaped (s : String) : String :=
  unescapedBy unescaped? s

end Vouch.Text
