import Vouch.Text.Ascii

/-!
Places in a YAML text, with the line and the column that its layout depends on, and the classes of
characters that decide where a scalar ends.
-/

namespace Vouch.Yaml

structure Cursor where
  rest : List Char
  index : Nat
  line : Nat
  column : Nat
  deriving Repr

def isBreak (c : Char) : Bool :=
  c == '\n' || c == '\r' || c == '\x85' || c == '\u2028' || c == '\u2029'

def isGap (c : Char) : Bool :=
  c == ' ' || c == '\t'

def isNameChar (c : Char) : Bool :=
  Text.isAsciiLetter c || c.isDigit || c == '_' || c == '-'

def isAllowed (c : Char) : Bool :=
  let n := c.toNat
  n == 9 || n == 10 || n == 13 || (0x20 ≤ n && n ≤ 0x7E) || n == 0x85 ||
    (0xA0 ≤ n && n ≤ 0xFFFD) || 0x10000 ≤ n

namespace Cursor

def start (cs : List Char) : Cursor := ⟨cs, 0, 0, 0⟩

def peek? (cursor : Cursor) : Option Char := cursor.rest.head?

def peekAt? (cursor : Cursor) (n : Nat) : Option Char := cursor.rest[n]?

def atEnd (cursor : Cursor) : Bool := cursor.rest.isEmpty

def sees (cursor : Cursor) (c : Char) : Bool := cursor.peek? == some c

/-- A space, a tab, a line break or the end of the text comes some places on. -/
def breaksAt (cursor : Cursor) (n : Nat) : Bool :=
  match cursor.peekAt? n with
  | none => true
  | some c => isGap c || isBreak c

def seesGap (cursor : Cursor) : Bool := cursor.peek?.any isGap

def atByteOrderMark (cursor : Cursor) : Bool :=
  cursor.column == 0 && cursor.sees '\ufeff'

def seesBreak (cursor : Cursor) : Bool := cursor.peek?.any isBreak

def next (cursor : Cursor) : Cursor :=
  match cursor.rest with
  | [] => cursor
  | _ :: rest => ⟨rest, cursor.index + 1, cursor.line, cursor.column + 1⟩

def advance (cursor : Cursor) : Nat → Cursor
  | 0 => cursor
  | n + 1 => cursor.next.advance n

/-- The place after a line break, and the break as it counts in a text. -/
def nextLine (cursor : Cursor) : List Char × Cursor :=
  match cursor.rest with
  | '\r' :: '\n' :: rest => (['\n'], ⟨rest, cursor.index + 2, cursor.line + 1, 0⟩)
  | '\u2028' :: rest => (['\u2028'], ⟨rest, cursor.index + 1, cursor.line + 1, 0⟩)
  | '\u2029' :: rest => (['\u2029'], ⟨rest, cursor.index + 1, cursor.line + 1, 0⟩)
  | _ :: rest => (['\n'], ⟨rest, cursor.index + 1, cursor.line + 1, 0⟩)
  | [] => ([], cursor)

/-- The place after all characters of a class, and these characters. -/
def takeWhile (cursor : Cursor) (p : Char → Bool) : List Char × Cursor :=
  let taken := cursor.rest.takeWhile p
  let n := taken.length
  (taken, ⟨cursor.rest.drop n, cursor.index + n, cursor.line, cursor.column + n⟩)

def skipWhile (cursor : Cursor) (p : Char → Bool) : Cursor := (cursor.takeWhile p).2

def atDocumentMark (cursor : Cursor) : Bool :=
  cursor.column == 0 && cursor.breaksAt 3 &&
    (cursor.rest.take 3 == ['-', '-', '-'] || cursor.rest.take 3 == ['.', '.', '.'])

end Cursor

/-- Line breaks between two parts of a scalar: a single break becomes a space, of several the first
one goes. -/
def folded (first others : List Char) : List Char :=
  if first.head? == some '\n' then
    if others.isEmpty then [' '] else others
  else first ++ others

end Vouch.Yaml
