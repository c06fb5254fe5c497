import Vouch.Text.Plain

/-!
Texts between double quotes, as they are shown in messages: a quote and a backslash are escaped by
a backslash, the common control characters have a letter of their own, and any other character
without a visible form is written by its number.
-/

namespace Vouch.Text

/-- The digits of a number in base sixteen, in lower case. -/
def hexText (n : Nat) : List Char :=
  Nat.toDigits 16 n

def quotedChar (c : Char) : List Char :=
  match c with
  | '"' => ['\\', '"']
  | '\\' => ['\\', '\\']
  | '\t' => ['\\', 't']
  | '\n' => ['\\', 'n']
  | '\r' => ['\\', 'r']
  | '\x00' => ['\\', '0']
  | _ => if isPlain c then [c] else ['\\', 'u', '\x7b'] ++ hexText c.toNat ++ ['\x7d']

def quoted (s : String) : String :=
  String.ofList ('"' :: s.toList.flatMap quotedChar ++ ['"'])

end Vouch.Text
