import Vouch.Yaml.Cursor

/-!
The scalars of a YAML text: plain ones, quoted ones and blocks.

Each function reads a scalar from its first character on; nothing is read where the text is
malformed.
-/

namespace Vouch.Yaml

inductive Style where
  | plain
  | single
  | double
  | literal
  | folded
  deriving DecidableEq, Repr

/-- Blanks and line breaks between two parts of a scalar that is folded over lines. -/
structure Spacing where
  /-- Blanks before the first line break. -/
  blanks : List Char
  first : List Char
  others : List Char
  broken : Bool
  deriving Repr

namespace Spacing

def none : Spacing := ⟨[], [], [], false⟩

def text (spacing : Spacing) : List Char :=
  if spacing.broken then folded spacing.first spacing.others else spacing.blanks

/-- Reads spacing.  After a line break, a tab left of the given column is malformed. -/
def read (column : Int) : Nat → Spacing → Cursor → Option (Spacing × Cursor)
  | 0, spacing, cursor => some (spacing, cursor)
  | steps + 1, spacing, cursor =>
    match cursor.peek? with
    | some c =>
      if isGap c then
        if spacing.broken && c == '\t' && decide ((cursor.column : Int) < column) then Option.none
        else if spacing.broken then read column steps spacing cursor.next
        else read column steps { spacing with blanks := spacing.blanks ++ [c] } cursor.next
      else if isBreak c then
        let (line, after) := cursor.nextLine
        if spacing.broken then
          read column steps { spacing with others := spacing.others ++ line } after
        else read column steps { spacing with blanks := [], first := line, broken := true } after
      else some (spacing, cursor)
    | Option.none => some (spacing, cursor)

end Spacing

/-! ### Plain scalars -/

/-- A character that ends a plain scalar inside brackets. -/
def isFlowMark (c : Char) : Bool :=
  c == ',' || c == '[' || c == ']' || c == '{' || c == '}'

def plainWord (inFlow : Bool) : Nat → Cursor → Option (List Char × Cursor)
  | 0, cursor => some ([], cursor)
  | steps + 1, cursor =>
    match cursor.peek? with
    | none => some ([], cursor)
    | some c =>
      if isGap c || isBreak c then some ([], cursor)
      else if inFlow && c == ':' && (cursor.peekAt? 1).any (fun d => isFlowMark d || d == '?') then
        none
      else if (c == ':' && cursor.breaksAt 1) || (inFlow && isFlowMark c) then some ([], cursor)
      else do
        let (word, after) ← plainWord inFlow steps cursor.next
        return (c :: word, after)

/-- The rest of a plain scalar, with the spacing before it.  The last component tells whether a line
break came after the scalar. -/
def plainRest (inFlow : Bool) (column : Int) :
    Nat → Spacing → Cursor → Option (List Char × Cursor × Bool)
  | 0, spacing, cursor => some ([], cursor, spacing.broken)
  | steps + 1, spacing, cursor =>
    if cursor.atDocumentMark || cursor.sees '#' then some ([], cursor, spacing.broken)
    else do
      let (word, after) ← plainWord inFlow cursor.rest.length cursor
      let lead := if word.isEmpty then [] else spacing.text ++ word
      let broken := if word.isEmpty then spacing.broken else false
      if !(after.seesGap || after.seesBreak) then return (lead, after, broken)
      let kept := if word.isEmpty then spacing else Spacing.none
      let (spacing, next) ← Spacing.read column after.rest.length kept after
      if !inFlow && decide ((next.column : Int) < column) then
        return (lead, next, spacing.broken)
      let (more, last, broken) ← plainRest inFlow column steps spacing next
      return (lead ++ more, last, broken)

/-- A plain scalar.  Outside brackets its lines must not start left of the given column. -/
def plainScalar (inFlow : Bool) (column : Int) (cursor : Cursor) :
    Option (List Char × Cursor × Bool) :=
  plainRest inFlow column (cursor.rest.length + 1) Spacing.none cursor

/-! ### Quoted scalars -/

def escapes : List (Char × Char) :=
  [('0', '\x00'), ('a', '\x07'), ('b', '\x08'), ('t', '\t'), ('\t', '\t'), ('n', '\n'),
    ('v', '\x0b'), ('f', '\x0c'), ('r', '\r'), ('e', '\x1b'), (' ', ' '), ('"', '"'), ('/', '/'),
    ('\\', '\\'), ('N', '\x85'), ('_', '\xa0'), ('L', '\u2028'), ('P', '\u2029')]

/-- The number of hexadecimal digits after the letter of an escape. -/
def escapeWidths : List (Char × Nat) :=
  [('x', 2), ('u', 4), ('U', 8)]

def escapedChar? (cursor : Cursor) : Option (Char × Cursor) := do
  let letter ← cursor.peek?
  match escapes.lookup letter with
  | some c => some (c, cursor.next)
  | none => do
    let width ← escapeWidths.lookup letter
    let digits := cursor.next.rest.take width
    if digits.length < width then none
    let values ← digits.mapM Text.hexValue?
    let n := values.foldl (fun n d => 16 * n + d) 0
    if n.isValidChar then some (Char.ofNat n, cursor.advance (width + 1)) else none

/-- The characters of a quoted scalar up to a blank or its closing quote.  The last component tells
whether an escaped line break ended them. -/
def quotedWord (single : Bool) : Nat → Cursor → Option (List Char × Cursor × Bool)
  | 0, cursor => some ([], cursor, false)
  | steps + 1, cursor =>
    match cursor.peek? with
    | none => some ([], cursor, false)
    | some c =>
      if isGap c || isBreak c then some ([], cursor, false)
      else if single && c == '\x27' then
        if cursor.peekAt? 1 == some '\x27' then do
          let (word, after) ← quotedWord single steps (cursor.advance 2)
          return (c :: word, after)
        else some ([], cursor, false)
      else if !single && c == '"' then some ([], cursor, false)
      else if !single && c == '\\' then
        if (cursor.peekAt? 1).any isBreak then some ([], cursor.next.nextLine.2, true)
        else do
          let (escaped, after) ← escapedChar? cursor.next
          let (word, after) ← quotedWord single steps after
          return (escaped :: word, after)
      else do
        let (word, after) ← quotedWord single steps cursor.next
        return (c :: word, after)

def quotedRest (single : Bool) : Nat → Cursor → Option (List Char × Cursor)
  | 0, _ => none
  | steps + 1, cursor =>
    if cursor.atDocumentMark || cursor.atEnd then none
    else do
      let (word, after, joined) ← quotedWord single cursor.rest.length cursor
      if after.sees (if single then '\x27' else '"') then return (word, after.next)
      let start : Spacing := { Spacing.none with broken := joined }
      let (spacing, next) ← Spacing.read 0 after.rest.length start after
      let (more, last) ← quotedRest single steps next
      return (word ++ spacing.text ++ more, last)

def quotedScalar (single : Bool) (cursor : Cursor) : Option (List Char × Cursor) :=
  quotedRest single (cursor.rest.length + 1) cursor.next

/-! ### Blocks -/

inductive Chomping where
  | strip
  | clip
  | keep
  deriving DecidableEq, Repr

def chomping? (c : Char) : Option Chomping :=
  if c == '+' then some .keep else if c == '-' then some .strip else none

def blockHead (cursor : Cursor) : Option (Chomping × Option Nat × Cursor) := do
  let digit (c : Char) : Option Nat := if c.isDigit then some (c.toNat - 48) else none
  let first := cursor.peek?
  match first.bind chomping? with
  | some chomping =>
    match cursor.next.peek?.bind digit with
    | some 0 => none
    | some n => some (chomping, some n, cursor.advance 2)
    | none => some (chomping, none, cursor.next)
  | none =>
    match first.bind digit with
    | some 0 => none
    | some n =>
      match cursor.next.peek?.bind chomping? with
      | some chomping => some (chomping, some n, cursor.advance 2)
      | none => some (.clip, some n, cursor.next)
    | none => some (.clip, none, cursor)

def indentSpaces (indent : Nat) (cursor : Cursor) : Cursor :=
  let spaces := (cursor.rest.takeWhile (· == ' ')).length
  cursor.advance (if indent = 0 then spaces else min spaces (indent - cursor.column))

/-- Empty lines before a line of a block, the greatest column reached, and the place where the line
starts. -/
def blockBreaks (indent : Nat) : Nat → Nat → Cursor → Option (List Char × Nat × Cursor)
  | 0, widest, cursor => some ([], widest, cursor)
  | steps + 1, widest, cursor =>
    let cursor := indentSpaces indent cursor
    let widest := max widest cursor.column
    if (indent == 0 || decide (cursor.column < indent)) && cursor.sees '\t' then none
    else if cursor.seesBreak then do
      let (line, after) := cursor.nextLine
      let (more, widest, last) ← blockBreaks indent steps widest after
      return (line ++ more, widest, last)
    else some ([], widest, cursor)

/-- The lines of a block: its text without the breaks at its end, the break of its last line, and
the breaks after that. -/
def blockLines (literal : Bool) (indent : Nat) :
    Nat → List Char → Bool → List Char → Cursor →
      Option (List Char × List Char × List Char × Cursor)
  | 0, lead, _, breaks, cursor => some ([], lead, breaks, cursor)
  | steps + 1, lead, leadBlank, breaks, cursor =>
    if cursor.column ≠ indent ∨ cursor.atEnd then some ([], lead, breaks, cursor)
    else do
      let blank := cursor.seesGap
      let joint :=
        if !literal && lead.head? == some '\n' && !leadBlank && !blank then
          (if breaks.isEmpty then [' '] else [])
        else lead
      let (line, after) := cursor.takeWhile (fun c => !isBreak c)
      let (lead, after) := after.nextLine
      let (nextBreaks, _, after) ← blockBreaks indent (after.rest.length + 1) 0 after
      let (more, lead, last, after) ← blockLines literal indent steps lead blank nextBreaks after
      return (joint ++ breaks ++ line ++ more, lead, last, after)

def blockScalar (literal : Bool) (parent : Int) (cursor : Cursor) :
    Option (List Char × Cursor) := do
  let (chomping, given, cursor) ← blockHead cursor.next
  let cursor := cursor.skipWhile isGap
  let cursor := if cursor.sees '#' then cursor.skipWhile (fun c => !isBreak c) else cursor
  if !(cursor.atEnd || cursor.seesBreak) then none
  let cursor := cursor.nextLine.2
  let indent : Nat := match given with
    | some n => (if 0 ≤ parent then parent + n else n).toNat
    | none => 0
  let (breaks, widest, cursor) ← blockBreaks indent (cursor.rest.length + 1) 0 cursor
  let indent := if indent = 0 then max (max widest (parent + 1).toNat) 1 else indent
  let (body, lead, last, cursor) ←
    blockLines literal indent (cursor.rest.length + 1) [] false breaks cursor
  let tail := match chomping with
    | .strip => []
    | .clip => lead
    | .keep => lead ++ last
  return (body ++ tail, cursor)

end Vouch.Yaml
