import Vouch.Decimal
import Vouch.Yaml.Scalar

/-!
The tokens of a YAML text.

Indentation becomes explicit: a block collection starts with a token of its own and ends with
`blockEnd`.  Whether a scalar is the key of a mapping is only known when the colon after it is met;
until then a slot in front of it is kept open, which the colon fills with the tokens that belong
there.
-/

namespace Vouch.Yaml

structure Tag where
  handle : String
  suffix : String
  deriving DecidableEq, Repr

inductive Token where
  | version
  | tagHandle (handle leading : String)
  | documentStart
  | documentEnd
  | blockSequence
  | blockMapping
  | blockEnd
  | flowSequence
  | flowSequenceEnd
  | flowMapping
  | flowMappingEnd
  | blockEntry
  | flowEntry
  | key
  | value
  | alias (name : String)
  | anchor (name : String)
  | tag (tag : Tag)
  | scalar (text : String) (style : Style)
  | streamEnd
  deriving DecidableEq, Repr

structure Candidate where
  /-- The position of the open slot among the tokens. -/
  slot : Nat
  required : Bool
  index : Nat
  line : Nat
  column : Nat
  deriving Repr

structure Lexer where
  cursor : Cursor
  /-- The columns of the open block collections, the innermost first; -1 outside of all. -/
  indents : List Int
  /-- A possible key for each open bracket and one for outside, the innermost first. -/
  candidates : List (Option Candidate)
  keyAllowed : Bool
  slots : Array (List Token)
  deriving Repr

namespace Lexer

def start (cs : List Char) : Lexer :=
  { cursor := Cursor.start cs, indents := [], candidates := [none], keyAllowed := true
    slots := #[] }

def indent (lexer : Lexer) : Int := lexer.indents.head?.getD (-1)

def inFlow (lexer : Lexer) : Bool := decide (1 < lexer.candidates.length)

def push (lexer : Lexer) (token : Token) : Lexer :=
  { lexer with slots := lexer.slots.push [token] }

def pushTo (lexer : Lexer) (token : Token) (cursor : Cursor) : Lexer :=
  { lexer.push token with cursor := cursor }

/-- The place where the next token starts, and whether a key may start there.  A byte order mark may
start a line, and takes up a column of it. -/
def skipGaps : Nat → Bool → Bool → Cursor → Bool × Cursor
  | 0, _, allowed, cursor => (allowed, cursor)
  | steps + 1, inFlow, allowed, cursor =>
    match cursor.peek? with
    | some c =>
      if c == ' ' || (c == '\t' && (inFlow || !allowed)) || cursor.atByteOrderMark then
        skipGaps steps inFlow allowed cursor.next
      else if c == '#' then
        skipGaps steps inFlow allowed (cursor.skipWhile (fun c => !isBreak c))
      else if isBreak c then skipGaps steps inFlow (allowed || !inFlow) cursor.nextLine.2
      else (allowed, cursor)
    | none => (allowed, cursor)

def expire (cursor : Cursor) : Option Candidate → Option (Option Candidate)
  | none => some none
  | some candidate =>
    if candidate.line < cursor.line ∨ candidate.index + 1024 < cursor.index then
      if candidate.required then none else some none
    else some (some candidate)

def unroll (lexer : Lexer) (column : Int) : Lexer :=
  if lexer.inFlow then lexer
  else
    let closed := lexer.indents.takeWhile (fun indent => decide (column < indent))
    { lexer with
      indents := lexer.indents.drop closed.length
      slots := closed.foldl (fun slots _ => slots.push [.blockEnd]) lexer.slots }

def dropCandidate (lexer : Lexer) : Option Lexer :=
  match lexer.candidates with
  | some candidate :: rest =>
    if candidate.required then none else some { lexer with candidates := none :: rest }
  | _ => some lexer

def openCandidate (lexer : Lexer) : Option Lexer :=
  if !lexer.keyAllowed then some lexer
  else do
    let lexer ← lexer.dropCandidate
    let cursor := lexer.cursor
    let candidate : Candidate :=
      { slot := lexer.slots.size
        required := !lexer.inFlow && lexer.indent == cursor.column
        index := cursor.index
        line := cursor.line
        column := cursor.column }
    return { lexer with
      candidates := some candidate :: lexer.candidates.drop 1
      slots := lexer.slots.push [] }

/-- Starts a block collection at a column, unless it is open already. -/
def roll (lexer : Lexer) (column : Int) (token : Token) : Lexer :=
  if lexer.inFlow || decide (column ≤ lexer.indent) then lexer
  else { lexer.push token with indents := column :: lexer.indents }

/-- A document starts or ends: all block collections are closed. -/
def documentMark (lexer : Lexer) (token : Token) (cursor : Cursor) : Option Lexer := do
  let lexer ← (lexer.unroll (-1)).dropCandidate
  return { lexer.pushTo token cursor with keyAllowed := false }

def openFlow (lexer : Lexer) (token : Token) : Option Lexer := do
  let lexer ← lexer.openCandidate
  return { lexer.pushTo token lexer.cursor.next with
    candidates := none :: lexer.candidates, keyAllowed := true }

def closeFlow (lexer : Lexer) (token : Token) : Option Lexer := do
  let lexer ← lexer.dropCandidate
  let candidates := if lexer.inFlow then lexer.candidates.drop 1 else lexer.candidates
  return { lexer.pushTo token lexer.cursor.next with candidates, keyAllowed := false }

def flowEntry (lexer : Lexer) : Option Lexer := do
  let lexer ← lexer.dropCandidate
  return { lexer.pushTo .flowEntry lexer.cursor.next with keyAllowed := true }

def blockEntry (lexer : Lexer) : Option Lexer := do
  if !lexer.inFlow && !lexer.keyAllowed then none
  let lexer ← (lexer.roll lexer.cursor.column .blockSequence).dropCandidate
  return { lexer.pushTo .blockEntry lexer.cursor.next with keyAllowed := true }

def explicitKey (lexer : Lexer) : Option Lexer := do
  if !lexer.inFlow && !lexer.keyAllowed then none
  let lexer ← (lexer.roll lexer.cursor.column .blockMapping).dropCandidate
  return { lexer.pushTo .key lexer.cursor.next with keyAllowed := !lexer.inFlow }

def keyValue (lexer : Lexer) : Option Lexer :=
  match lexer.candidates with
  | some candidate :: rest =>
    let starts := !lexer.inFlow && decide (lexer.indent < (candidate.column : Int))
    let tokens := if starts then [.blockMapping, .key] else [.key]
    let lexer := { lexer with
      candidates := none :: rest
      indents := if starts then (candidate.column : Int) :: lexer.indents else lexer.indents
      slots := lexer.slots.set! candidate.slot tokens
      keyAllowed := false }
    some (lexer.pushTo .value lexer.cursor.next)
  | _ => do
    if !lexer.inFlow && !lexer.keyAllowed then none
    let lexer := lexer.roll lexer.cursor.column .blockMapping
    return { lexer.pushTo .value lexer.cursor.next with keyAllowed := !lexer.inFlow }

def name? (cursor : Cursor) : Option (String × Cursor) :=
  let (name, after) := cursor.takeWhile isNameChar
  let ends := after.breaksAt 0 || after.peek?.any
    (fun c => ['?', ':', ',', ']', '}', '%', '@', '\x60'].contains c)
  if name.isEmpty || !ends then none else some (String.ofList name, after)

def isTagChar (verbatim : Bool) (c : Char) : Bool :=
  isNameChar c ||
    [';', '/', '?', ':', '@', '&', '=', '+', '$', '.', '%', '!', '~', '*', '\x27', '(', ')'].contains
      c || (verbatim && [',', '[', ']'].contains c)

def tagBytes : List Char → Option (List UInt8)
  | '%' :: a :: b :: rest => do
    let high ← Text.hexValue? a
    let low ← Text.hexValue? b
    return UInt8.ofNat (16 * high + low) :: (← tagBytes rest)
  | '%' :: _ => none
  | c :: rest => do return (String.singleton c).toUTF8.toList ++ (← tagBytes rest)
  | [] => some []

def tagText? (cs : List Char) : Option String := do
  String.fromUTF8? ⟨(← tagBytes cs).toArray⟩

def tag? (cursor : Cursor) : Option (Tag × Cursor) :=
  if cursor.peekAt? 1 == some '<' then do
    let (suffix, after) := (cursor.advance 2).takeWhile (isTagChar true)
    if suffix.isEmpty || !after.sees '>' then none
    return (⟨"", ← tagText? suffix⟩, after.next)
  else do
    let (name, after) := cursor.next.takeWhile isNameChar
    if after.sees '!' then
      let (suffix, after) := after.next.takeWhile (isTagChar false)
      if suffix.isEmpty then none
      return (⟨String.ofList ('!' :: name ++ ['!']), ← tagText? suffix⟩, after)
    else
      let (more, after) := after.takeWhile (isTagChar false)
      let suffix := name ++ more
      if suffix.isEmpty then return (⟨"", "!"⟩, after)
      return (⟨"!", ← tagText? suffix⟩, after)

def versionNumber? (cs : List Char) : Option Nat :=
  if cs.length ≤ 9 then Decimal.digits? cs else none

def directive? (cursor : Cursor) : Option (Token × Cursor) := do
  let (name, after) := cursor.next.takeWhile isNameChar
  let (gap, value) := after.takeWhile isGap
  let (token, after) ←
    if name == "YAML".toList then do
      let (major, after) := value.takeWhile Char.isDigit
      if !after.sees '.' then none
      let (minor, after) := after.next.takeWhile Char.isDigit
      if versionNumber? major != some 1 then none
      if !(versionNumber? minor).any (fun n => n == 1 || n == 2) then none
      some (Token.version, after)
    else if name == "TAG".toList then do
      if gap.isEmpty || !value.sees '!' then none
      let (inner, after) := value.next.takeWhile isNameChar
      let closed := after.sees '!'
      if !closed && !inner.isEmpty then none
      let after := if closed then after.next else after
      let handle := '!' :: inner ++ (if closed then ['!'] else [])
      let (gap, after) := after.takeWhile isGap
      if gap.isEmpty then none
      let (leading, after) := after.takeWhile (isTagChar true)
      if leading.isEmpty || !after.breaksAt 0 then none
      some (Token.tagHandle (String.ofList handle) (← tagText? leading), after)
    else none
  let after := after.skipWhile isGap
  let after := if after.sees '#' then after.skipWhile (fun c => !isBreak c) else after
  if !(after.atEnd || after.seesBreak) then none
  return (token, if after.seesBreak then after.nextLine.2 else after)

def scalar (lexer : Lexer) (style : Style) (text : List Char) (after : Cursor) : Lexer :=
  { lexer.pushTo (.scalar (String.ofList text) style) after with keyAllowed := false }

/-- A character that no plain scalar starts with, unless more is known. -/
def isIndicator (c : Char) : Bool :=
  ['-', '?', ':', ',', '[', ']', '{', '}', '#', '&', '*', '!', '|', '>', '\x27', '"', '%', '@',
    '\x60'].contains c

def token (lexer : Lexer) (c : Char) : Option Lexer :=
  let cursor := lexer.cursor
  if cursor.column == 0 && c == '%' then do
    let lexer ← (lexer.unroll (-1)).dropCandidate
    let (token, after) ← directive? cursor
    return { lexer.pushTo token after with keyAllowed := false }
  else if cursor.atDocumentMark then
    lexer.documentMark (if c == '-' then .documentStart else .documentEnd) (cursor.advance 3)
  else if c == '[' then lexer.openFlow .flowSequence
  else if c == '{' then lexer.openFlow .flowMapping
  else if c == ']' then lexer.closeFlow .flowSequenceEnd
  else if c == '}' then lexer.closeFlow .flowMappingEnd
  else if c == ',' then lexer.flowEntry
  else if c == '-' && cursor.breaksAt 1 then lexer.blockEntry
  else if c == '?' && (lexer.inFlow || cursor.breaksAt 1) then lexer.explicitKey
  else if c == ':' && (lexer.inFlow || cursor.breaksAt 1) then lexer.keyValue
  else if c == '*' || c == '&' then do
    let lexer ← lexer.openCandidate
    let (name, after) ← name? cursor.next
    let token := if c == '*' then .alias name else .anchor name
    return { lexer.pushTo token after with keyAllowed := false }
  else if c == '!' then do
    let lexer ← lexer.openCandidate
    let (tag, after) ← tag? cursor
    if !(after.breaksAt 0 || (lexer.inFlow && after.sees ',')) then none
    return { lexer.pushTo (.tag tag) after with keyAllowed := false }
  else if (c == '|' || c == '>') && !lexer.inFlow then do
    let lexer ← lexer.dropCandidate
    let (text, after) ← blockScalar (c == '|') lexer.indent cursor
    let style := if c == '|' then .literal else .folded
    return { lexer.pushTo (.scalar (String.ofList text) style) after with keyAllowed := true }
  else if c == '\x27' || c == '"' then do
    let lexer ← lexer.openCandidate
    let (text, after) ← quotedScalar (c == '\x27') cursor
    return lexer.scalar (if c == '"' then .double else .single) text after
  else if !isIndicator c || (c == '-' && !(cursor.peekAt? 1).any isGap) ||
      (!lexer.inFlow && (c == '?' || c == ':') && !cursor.breaksAt 1) then do
    let lexer ← lexer.openCandidate
    let (text, after, broken) ← plainScalar lexer.inFlow (lexer.indent + 1) cursor
    return { lexer.scalar .plain text after with keyAllowed := broken }
  else none

def run : Nat → Lexer → Option (List Token)
  | 0, _ => none
  | steps + 1, lexer => do
    let (allowed, cursor) :=
      skipGaps lexer.cursor.rest.length lexer.inFlow lexer.keyAllowed lexer.cursor
    let candidates ← lexer.candidates.mapM (expire cursor)
    let lexer := { lexer with cursor, candidates, keyAllowed := allowed }.unroll cursor.column
    match cursor.peek? with
    | some c => run steps (← lexer.token c)
    | none =>
      let lexer ← (lexer.unroll (-1)).dropCandidate
      return (lexer.push .streamEnd).slots.toList.flatten

end Lexer

def Token.scan (cs : List Char) : Option (List Token) :=
  if cs.all isAllowed then Lexer.run (cs.length + 2) (Lexer.start cs) else none

end Vouch.Yaml
