/-!
What can be wrong with a text that should be JSON, and where in the text it was noticed.
-/

namespace Vouch.Json

/-- A reason why a text is not JSON, or not JSON that this library reads. -/
inductive Flaw where
  | eofInList
  | eofInObject
  | eofInString
  | eofInValue
  | expectedColon
  | expectedListEnd
  | expectedObjectEnd
  | expectedWord
  | expectedValue
  | invalidEscape
  | invalidNumber
  | numberOutOfRange
  | controlCharacter
  | keyNotString
  | loneSurrogate
  | unfinishedPair
  | trailingComma
  | trailingCharacters
  | tooDeep
  deriving DecidableEq, Repr

def Flaw.message : Flaw → String
  | .eofInList => "EOF while parsing a list"
  | .eofInObject => "EOF while parsing an object"
  | .eofInString => "EOF while parsing a string"
  | .eofInValue => "EOF while parsing a value"
  | .expectedColon => "expected `:`"
  | .expectedListEnd => "expected `,` or `]`"
  | .expectedObjectEnd => "expected `,` or `\x7d`"
  | .expectedWord => "expected ident"
  | .expectedValue => "expected value"
  | .invalidEscape => "invalid escape"
  | .invalidNumber => "invalid number"
  | .numberOutOfRange => "number out of range"
  | .controlCharacter =>
    "control character (\\u0000-\\u001F) found while parsing a string"
  | .keyNotString => "key must be a string"
  | .loneSurrogate => "lone leading surrogate in hex escape"
  | .unfinishedPair => "unexpected end of hex escape"
  | .trailingComma => "trailing comma"
  | .trailingCharacters => "trailing characters"
  | .tooDeep => "recursion limit exceeded"

/-- A flaw and the number of bytes of the text before the place it is reported at. -/
structure Fault where
  flaw : Flaw
  offset : Nat
  deriving DecidableEq, Repr

/-- Line and column of an offset: one more than the line breaks before it, and the bytes since the
last of them. -/
def lineAndColumn (text : String) (offset : Nat) : Nat × Nat :=
  (text.toUTF8.toList.take offset).foldl
    (fun place byte => if byte == 10 then (place.1 + 1, 0) else (place.1, place.2 + 1)) (1, 0)

end Vouch.Json
