import Vouch.Json.Shape

/-!
Whole documents of a shape, and documents that are one of several things.

A *tagged* union is a record in which one field names the variant and the others belong to it.  Its
fields are kept aside until the tag is known, so complaints about them name no place.  A *paired*
union has two fields, the name of the variant and its content.
-/

namespace Vouch.Json

structure Tagged where
  title : String
  tag : String
  variants : List (Variant Shape)
  deriving Repr

structure Arm where
  name : String
  title : String
  content : Option Shape
  deriving Repr

structure Paired where
  title : String
  tag : String
  content : String
  variants : List Arm
  deriving Repr

namespace Tagged

def variant (union : Tagged) (tag : Node) : Except Refusal (Variant Shape) :=
  match tag with
  | .text name span =>
    match union.variants.find? (fun v => v.name == name) with
    | some v => .ok v
    | none => Origin.written.refuse span.stop (.unknown name (union.variants.map (·.name)))
  | node => node.mismatch .written "variant identifier"

def variantAmong (union : Tagged) (found : Option (Variant Shape)) :
    List (Key × Node) → Except Refusal (Option (Variant Shape))
  | [] => .ok found
  | (key, value) :: rest => do
    if let some fault := key.fault then throw (.ofFault fault)
    if key.name == union.tag then
      if found.isSome then Origin.written.refuse key.settled (.duplicate union.tag)
      union.variantAmong (some (← union.variant value)) rest
    else
      if let some fault := value.keepFault then throw (.ofFault fault)
      union.variantAmong found rest

def conform (union : Tagged) (node : Node) : Except Refusal (String × Value) := do
  match node with
  | .object start deep members ending =>
    Node.shallow .written start deep
    let found ← union.variantAmong none members
    let stop ← ending.stop
    match found with
    | none => Origin.written.refuse stop (.missing union.tag)
    | some variant =>
      let found ← Node.conformMembers .kept variant.fields [] members
      return (variant.name, .list (← variant.fields.mapM (Member.settle .kept 0 found)))
  | .list start deep items ending =>
    Node.shallow .written start deep
    match items with
    | [] => do
      let stop ← ending.stop
      Origin.written.refuse stop (.missing union.tag)
    | tag :: items => do
      let variant ← union.variant tag
      if let some fault := Node.keepItems items then throw (.ofFault fault)
      let _ ← ending.stop
      let values ←
        Node.conformSlots .kept variant.title variant.fields.length variant.fields (.closed 0) items
      return (variant.name, .list values)
  | node => node.mismatch .written ("internally tagged enum " ++ union.title)

end Tagged

namespace Paired

def names (union : Paired) : List String :=
  union.variants.map (·.name)

def arm? (union : Paired) (name : String) : Option Arm :=
  union.variants.find? (fun arm => arm.name == name)

def expected (union : Paired) : String :=
  "adjacently tagged enum " ++ union.title

def tagName (union : Paired) (tag : Node) : Except Refusal String := do
  match ← tag.conformChoice .written union.names with
  | .text name => return name
  | _ => return ""

/-- Where a list or an object is said to be that should have been nothing at all: at its first
part, or after its bracket. -/
def pastOpening : Node → Nat
  | .list _ _ (item :: _) _ => item.start
  | .object _ _ ((key, _) :: _) _ => key.start
  | .list _ _ [] (.closed stop) | .object _ _ [] (.closed stop) => stop
  | node => node.place

def contentOf (union : Paired) (o : Origin) (name : String) (content : Node) :
    Except Refusal Value :=
  match union.arm? name with
  | none => .ok .null
  | some ⟨_, _, some shape⟩ => content.conform o shape
  | some ⟨_, title, none⟩ => do
    let expected := "unit variant " ++ title
    match content with
    | .null _ => return .null
    | .list start deep .. =>
      Node.shallow o start deep
      o.refuse (pastOpening content) (.wrongType .list expected)
    | .object start deep .. =>
      Node.shallow o start deep
      o.refuse (pastOpening content) (.wrongType .object expected)
    | node => node.mismatch o expected

def withoutContent (union : Paired) (stop : Nat) (name : String) : Except Refusal Value :=
  match (union.arm? name).bind (·.content) with
  | some _ => Origin.written.refuse stop (.missing union.content)
  | none => .ok .null

def nothingTwice (union : Paired) (ending : Ending) : List (Key × Node) → Except Refusal Unit
  | [] => do
    let _ ← ending.stop
    return ()
  | (key, value) :: rest => do
    if let some fault := key.fault then throw (.ofFault fault)
    if key.name == union.tag ∨ key.name == union.content then
      Origin.written.refuse key.settled (.duplicate key.name)
    if let some fault := value.passFault then throw (.ofFault fault)
    union.nothingTwice ending rest

def afterTag (union : Paired) (ending : Ending) (name : String) :
    List (Key × Node) → Except Refusal (String × Value)
  | [] => do return (name, ← union.withoutContent (← ending.stop) name)
  | (key, value) :: rest => do
    if let some fault := key.fault then throw (.ofFault fault)
    if key.name == union.tag then Origin.written.refuse key.settled (.duplicate union.tag)
    else if key.name == union.content then
      let content ← union.contentOf .written name value
      union.nothingTwice ending rest
      return (name, content)
    else
      if let some fault := value.passFault then throw (.ofFault fault)
      union.afterTag ending name rest

def afterContent (union : Paired) (ending : Ending) (content : Node) :
    List (Key × Node) → Except Refusal (String × Value)
  | [] => do Origin.written.refuse (← ending.stop) (.missing union.tag)
  | (key, value) :: rest => do
    if let some fault := key.fault then throw (.ofFault fault)
    if key.name == union.content then
      Origin.written.refuse key.settled (.duplicate union.content)
    else if key.name == union.tag then
      let name ← union.tagName value
      match union.contentOf .kept name content with
      | .error refusal => Origin.written.refuse key.afterSettled refusal.complaint
      | .ok settled =>
        union.nothingTwice ending rest
        return (name, settled)
    else
      if let some fault := value.passFault then throw (.ofFault fault)
      union.afterContent ending content rest

def members (union : Paired) (ending : Ending) :
    List (Key × Node) → Except Refusal (String × Value)
  | [] => do Origin.written.refuse (← ending.stop) (.missing union.tag)
  | (key, value) :: rest => do
    if let some fault := key.fault then throw (.ofFault fault)
    if key.name == union.tag then
      let name ← union.tagName value
      union.afterTag ending name rest
    else if key.name == union.content then
      if let some fault := value.keepFault then throw (.ofFault fault)
      union.afterContent ending value rest
    else
      if let some fault := value.passFault then throw (.ofFault fault)
      union.members ending rest

def conform (union : Paired) (node : Node) : Except Refusal (String × Value) := do
  match node with
  | .object start deep members ending =>
    Node.shallow .written start deep
    union.members ending members
  | .list start deep items ending =>
    Node.shallow .written start deep
    match items with
    | [] => do Origin.written.refuse (← ending.stop) (.wrongLength 0 union.expected)
    | [tag] => do
      let _ ← union.tagName tag
      Origin.written.refuse (← ending.stop) (.wrongLength 1 union.expected)
    | tag :: content :: rest => do
      let name ← union.tagName tag
      let settled ← union.contentOf .written name content
      ending.nothingMore .written 2 rest
      return (name, settled)
  | node => node.mismatch .written union.expected

end Paired

namespace Document

def whole (doc : Document) (result : Except Refusal α) : Except Refusal α := do
  let value ← result
  match doc.trailing with
  | some fault => throw (.ofFault fault)
  | none => return value

def conform (shape : Shape) (doc : Document) : Except Refusal Value :=
  doc.whole (doc.root.conform .written shape)

def conformTagged (union : Tagged) (doc : Document) : Except Refusal (String × Value) :=
  doc.whole (union.conform doc.root)

def conformPaired (union : Paired) (doc : Document) : Except Refusal (String × Value) :=
  doc.whole (union.conform doc.root)

def misfit : Refusal := ⟨.wrongType .object "a value of the type", none⟩

def decode (shape : Shape) (ofValue? : Value → Option α) (text : String) : Except Refusal α := do
  match ofValue? (← (read text).conform shape) with
  | some a => return a
  | none => throw misfit

def decodeTagged (union : Tagged) (ofRecord? : String → Value → Option α) (text : String) :
    Except Refusal α := do
  let (name, record) ← (read text).conformTagged union
  match ofRecord? name record with
  | some a => return a
  | none => throw misfit

def decodePaired (union : Paired) (ofContent? : String → Value → Option α) (text : String) :
    Except Refusal α := do
  let (name, content) ← (read text).conformPaired union
  match ofContent? name content with
  | some a => return a
  | none => throw misfit

end Document

end Vouch.Json
