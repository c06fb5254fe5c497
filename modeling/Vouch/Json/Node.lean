import Vouch.Json.Scan
import Vouch.Json.Value

/-!
A JSON text as a tree that remembers where each part stands.

The tree is made of any text.  What is wrong with the text is part of the tree, at the place where
it was met; a list or an object whose text breaks off is cut short there.  Whoever walks the tree
therefore meets the first thing that is wrong in the order of the text.
-/

namespace Vouch.Json

/-- The bytes before a part of a text and the bytes up to its end. -/
structure Span where
  start : Nat
  stop : Nat
  deriving DecidableEq, Repr

inductive Mark where
  | quote
  | other
  | nothing
  deriving DecidableEq, Repr

inductive Ending where
  | closed (stop : Nat)
  | cut (wanted passed : Fault)
  deriving DecidableEq, Repr

namespace Ending

def wanted? : Ending → Option Fault
  | .closed _ => none
  | .cut wanted _ => some wanted

def passed? : Ending → Option Fault
  | .closed _ => none
  | .cut _ passed => some passed

end Ending

structure Key where
  name : String
  /-- What is wrong with the name, if it can only be passed over. -/
  fault : Option Fault
  start : Nat
  stop : Nat
  /-- The next character after the name; one more if it is a closing brace. -/
  settled : Nat
  after : Nat
  /-- The next character after the value; one more if it is a closing brace. -/
  afterSettled : Nat
  deriving DecidableEq, Repr

inductive Node where
  | null (span : Span)
  | bool (b : Bool) (span : Span)
  | number (n : Number) (span : Span)
  | text (s : String) (span : Span)
  | list (start : Nat) (deep : Bool) (items : List Node) (ending : Ending)
  | object (start : Nat) (deep : Bool) (members : List (Key × Node)) (ending : Ending)
  | spoilt (start : Nat) (mark : Mark) (wanted : Fault) (passed : Option Fault)
  deriving Repr

structure Document where
  root : Node
  trailing : Option Fault
  deriving Repr

structure Cursor where
  offset : Nat
  rest : List Char
  deriving Repr

namespace Cursor

/-- The blanks that may stand between the parts of a JSON text. -/
def isSpace (c : Char) : Bool :=
  c == ' ' || c == '\n' || c == '\t' || c == '\r'

def skip (cursor : Cursor) : Cursor :=
  let blanks := cursor.rest.takeWhile isSpace
  ⟨cursor.offset + blanks.length, cursor.rest.dropWhile isSpace⟩

def fault (cursor : Cursor) (flaw : Flaw) : Fault :=
  ⟨flaw, ahead cursor.offset cursor.rest⟩

def atBrace (cursor : Cursor) : Bool :=
  cursor.rest.head? == some '}'

def settled (cursor : Cursor) : Nat :=
  if cursor.atBrace then cursor.offset + 1 else cursor.offset

end Cursor

namespace Node

def depthLimit : Nat := 127

def letters (offset : Nat) : List Char → List Char → Except Fault Cursor
  | [], rest => .ok ⟨offset, rest⟩
  | _ :: _, [] => .error ⟨.eofInValue, offset⟩
  | letter :: letters', c :: rest =>
    if letter = c then letters (offset + 1) letters' rest
    else .error ⟨.expectedWord, offset + 1⟩

def word (start : Nat) (value : Span → Node) (expected rest : List Char) : Node × Option Cursor :=
  match letters (start + 1) expected rest with
  | .ok cursor => (value ⟨start, cursor.offset⟩, some cursor)
  | .error fault => (.spoilt start .other fault (some fault), none)

def ofScan (start : Nat) (mark : Mark) (value : α → Span → Node) : Scanned α → Node × Option Cursor
  | .good a offset rest => (value a ⟨start, offset⟩, some ⟨offset, rest⟩)
  | .refused fault offset rest => (.spoilt start mark fault none, some ⟨offset, rest⟩)
  | .broken wanted passed => (.spoilt start mark wanted (some passed), none)

def missing (cursor : Cursor) (mark : Mark) (flaw : Flaw) : Node × Option Cursor :=
  let fault := cursor.fault flaw
  (.spoilt cursor.offset mark fault (some fault), none)

mutual

/-- The value at a place and the place after it, if the text goes on.  The steps bound the nesting
of calls; a text needs no more than it has characters. -/
def read (steps levels : Nat) (cursor : Cursor) : Node × Option Cursor :=
  match steps with
  | 0 => missing cursor .nothing .eofInValue
  | steps + 1 =>
    let cursor := cursor.skip
    let start := cursor.offset
    match cursor.rest with
    | [] => missing cursor .nothing .eofInValue
    | 'n' :: rest => word start .null ['u', 'l', 'l'] rest
    | 't' :: rest => word start (.bool true) ['r', 'u', 'e'] rest
    | 'f' :: rest => word start (.bool false) ['a', 'l', 's', 'e'] rest
    | '"' :: rest => ofScan start .quote .text (scanString (start + 1) rest)
    | '[' :: rest =>
      let (items, ending, next) := readItems steps (levels - 1) true ⟨start + 1, rest⟩
      (.list start (levels == 0) items ending, next)
    | '{' :: rest =>
      let (members, ending, next) := readMembers steps (levels - 1) true ⟨start + 1, rest⟩
      (.object start (levels == 0) members ending, next)
    | c :: rest =>
      if c == '-' || c.isDigit then ofScan start .other .number (scanNumber start (c :: rest))
      else missing cursor .other .expectedValue

def readItems (steps levels : Nat) (first : Bool) (cursor : Cursor) :
    List Node × Ending × Option Cursor :=
  match steps with
  | 0 => ([], .cut ⟨.eofInList, cursor.offset⟩ ⟨.eofInList, cursor.offset⟩, none)
  | steps + 1 =>
    let cursor := cursor.skip
    match cursor.rest with
    | [] => ([], .cut ⟨.eofInList, cursor.offset⟩ ⟨.eofInList, cursor.offset⟩, none)
    | ']' :: rest => ([], .closed (cursor.offset + 1), some ⟨cursor.offset + 1, rest⟩)
    | c :: rest =>
      if !first && c != ',' then
        ([], .cut (cursor.fault .expectedListEnd) (cursor.fault .expectedListEnd), none)
      else
        let cursor := if first then cursor else Cursor.skip ⟨cursor.offset + 1, rest⟩
        if !first && cursor.rest.head? == some ']' then
          ([], .cut (cursor.fault .trailingComma) (cursor.fault .expectedValue), none)
        else if !first && cursor.rest.isEmpty then
          ([], .cut (cursor.fault .eofInValue) (cursor.fault .eofInValue), none)
        else
          match read steps levels cursor with
          | (item, some next) =>
            let (items, ending, next) := readItems steps levels false next
            (item :: items, ending, next)
          | (item, none) =>
            ([item], .cut ⟨.eofInList, cursor.offset⟩ ⟨.eofInList, cursor.offset⟩, none)

def readMembers (steps levels : Nat) (first : Bool) (cursor : Cursor) :
    List (Key × Node) × Ending × Option Cursor :=
  match steps with
  | 0 => ([], .cut ⟨.eofInObject, cursor.offset⟩ ⟨.eofInObject, cursor.offset⟩, none)
  | steps + 1 =>
    let cursor := cursor.skip
    match cursor.rest with
    | [] => ([], .cut ⟨.eofInObject, cursor.offset⟩ ⟨.eofInObject, cursor.offset⟩, none)
    | '}' :: rest => ([], .closed (cursor.offset + 1), some ⟨cursor.offset + 1, rest⟩)
    | c :: rest =>
      if !first && c != ',' then
        ([], .cut (cursor.fault .expectedObjectEnd) (cursor.fault .expectedObjectEnd), none)
      else
        let cursor := if first then cursor else Cursor.skip ⟨cursor.offset + 1, rest⟩
        match cursor.rest with
        | [] => ([], .cut (cursor.fault .eofInValue) (cursor.fault .eofInObject), none)
        | '"' :: rest =>
          let start := cursor.offset
          match scanString (start + 1) rest with
          | .broken wanted passed => ([], .cut wanted passed, none)
          | .good name offset rest =>
            readMember steps levels
              { name := name, fault := none, start := start, stop := offset, settled := 0
                after := 0, afterSettled := 0 }
              ⟨offset, rest⟩
          | .refused fault offset rest =>
            readMember steps levels
              { name := "", fault := some fault, start := start, stop := offset, settled := 0
                after := 0, afterSettled := 0 }
              ⟨offset, rest⟩
        | '}' :: _ =>
          ([], .cut (cursor.fault .trailingComma) (cursor.fault .keyNotString), none)
        | _ => ([], .cut (cursor.fault .keyNotString) (cursor.fault .keyNotString), none)

def readMember (steps levels : Nat) (key : Key) (cursor : Cursor) :
    List (Key × Node) × Ending × Option Cursor :=
  match steps with
  | 0 => ([], .cut ⟨.eofInObject, cursor.offset⟩ ⟨.eofInObject, cursor.offset⟩, none)
  | steps + 1 =>
    let cursor := cursor.skip
    let key := { key with settled := cursor.settled }
    let broken : Ending := .cut ⟨.eofInObject, cursor.offset⟩ ⟨.eofInObject, cursor.offset⟩
    match cursor.rest with
    | [] => ([(key, (missing cursor .nothing .eofInObject).1)], broken, none)
    | ':' :: rest =>
      match read steps levels ⟨cursor.offset + 1, rest⟩ with
      | (value, some next) =>
        let next := next.skip
        let (members, ending, last) := readMembers steps levels false next
        (({ key with after := next.offset, afterSettled := next.settled }, value) :: members,
          ending, last)
      | (value, none) => ([(key, value)], broken, none)
    | _ => ([(key, (missing cursor .nothing .expectedColon).1)], broken, none)

end

/-- Where a value is said to be when it is not what was wanted: after it, or at its bracket. -/
def place : Node → Nat
  | .null span | .bool _ span | .number _ span | .text _ span => span.stop
  | .list start .. | .object start .. | .spoilt start .. => start

def start : Node → Nat
  | .null span | .bool _ span | .number _ span | .text _ span => span.start
  | .list start .. | .object start .. | .spoilt start .. => start

mutual

/-- The first thing that keeps a value from being passed over. -/
def passFault : Node → Option Fault
  | .null _ | .bool .. | .number .. | .text .. => none
  | .spoilt _ _ _ passed => passed
  | .list _ _ items ending => (passItems items).or ending.passed?
  | .object _ _ members ending => (passMembers members).or ending.passed?

/-- The first thing that keeps items from being passed over. -/
def passItems : List Node → Option Fault
  | [] => none
  | item :: rest => (passFault item).or (passItems rest)

/-- The first thing that keeps members from being passed over. -/
def passMembers : List (Key × Node) → Option Fault
  | [] => none
  | (_, value) :: rest => (passFault value).or (passMembers rest)

end

mutual

def keepFault : Node → Option Fault
  | .null _ | .bool .. | .number .. | .text .. => none
  | .spoilt _ _ wanted _ => some wanted
  | .list start deep items ending =>
    if deep then some ⟨.tooDeep, start + 1⟩ else (keepItems items).or ending.wanted?
  | .object start deep members ending =>
    if deep then some ⟨.tooDeep, start + 1⟩ else (keepMembers members).or ending.wanted?

def keepItems : List Node → Option Fault
  | [] => none
  | item :: rest => (keepFault item).or (keepItems rest)

def keepMembers : List (Key × Node) → Option Fault
  | [] => none
  | (key, value) :: rest => (key.fault.or (keepFault value)).or (keepMembers rest)

end

mutual

/-- The plain value of a part, unless something is wrong with it or a number is not whole. -/
def value? : Node → Option Value
  | .null _ => some .null
  | .bool b _ => some (.bool b)
  | .number (.whole n) _ => some (.int n)
  | .number (.real _) _ => none
  | .text s _ => some (.text s)
  | .list _ false items (.closed _) => (itemValues? items).map .list
  | .object _ false members (.closed _) => (memberValues? members).map .object
  | _ => none

def itemValues? : List Node → Option (List Value)
  | [] => some []
  | item :: rest => do return (← value? item) :: (← itemValues? rest)

def memberValues? : List (Key × Node) → Option (List (String × Value))
  | [] => some []
  | (key, value) :: rest => do
    if key.fault.isSome then none
    return (key.name, ← value? value) :: (← memberValues? rest)

end

end Node

namespace Document

def read (text : String) : Document :=
  let cs := text.toList
  match Node.read (2 * cs.length + 2) Node.depthLimit ⟨0, cs⟩ with
  | (root, none) => ⟨root, none⟩
  | (root, some next) =>
    let next := next.skip
    ⟨root, if next.rest.isEmpty then none else some (next.fault .trailingCharacters)⟩

def value? (doc : Document) : Option Value :=
  if doc.trailing.isSome then none else doc.root.value?

end Document

def Value.read? (text : String) : Option Value :=
  (Document.read text).value?

end Vouch.Json
