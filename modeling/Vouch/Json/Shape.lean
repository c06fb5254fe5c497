import Vouch.Json.Node
import Vouch.Json.Refusal

/-!
Shapes of documents, and the check that a part of a document has a shape.

A part that conforms to a shape yields a value in a settled form: a record becomes the list of its
fields in the order of the shape, and a field that the document leaves out has its stand-in there.
Records may be written as objects or as lists, names that a record does not have are passed over,
and the first complaint in the order of the text counts.
-/

namespace Vouch.Json

inductive Need where
  | required
  | optional
  | instead (value : Value)
  deriving Repr

structure Member (σ : Type) where
  name : String
  need : Need
  shape : σ
  deriving Repr

structure Variant (σ : Type) where
  name : String
  title : String
  fields : List (Member σ)
  deriving Repr

inductive Shape where
  | text
  | stamp
  | flag
  | whole (name : String) (least greatest : Int)
  | list (item : Shape)
  | choice (names : List String)
  | record (title : String) (fields : List (Member Shape))
  /-- A record that shares its object with a variant, which the field `tag` names. -/
  | merged (title : String) (own : List (Member Shape)) (tag : String)
      (variants : List (Variant Shape))
  deriving Repr

namespace Shape

def u16 : Shape := .whole "u16" 0 Decimal.maxU16

def u32 : Shape := .whole "u32" 0 Decimal.maxU32

def u64 : Shape := .whole "u64" 0 Decimal.maxU64

def usize : Shape := .whole "usize" 0 Decimal.maxU64

def i64 : Shape := .whole "i64" Decimal.minI64 Decimal.maxI64

end Shape

/-- Whether a part is read straight from the text or was kept aside first.  Complaints about a part
kept aside name no place. -/
inductive Origin where
  | written
  | kept
  deriving DecidableEq, Repr

namespace Origin

def refuse (o : Origin) (offset : Nat) (complaint : Complaint) : Except Refusal α :=
  .error ⟨complaint, match o with | .written => some offset | .kept => none⟩

end Origin

def elements (n : Nat) : String :=
  Decimal.text n ++ (if n = 1 then " element" else " elements")

namespace Node

def finding : Node → Except Fault Finding
  | .null _ => .ok .null
  | .bool b _ => .ok (.bool b)
  | .number n _ => .ok (.number n)
  | .text s _ => .ok (.text s)
  | .list .. => .ok .list
  | .object .. => .ok .object
  | .spoilt _ _ wanted _ => .error wanted

def mismatch (o : Origin) (node : Node) (expected : String) : Except Refusal α :=
  match node.finding with
  | .ok found => o.refuse node.place (.wrongType found expected)
  | .error fault => .error (.ofFault fault)

end Node

namespace Ending

def stop : Ending → Except Refusal Nat
  | .closed stop => .ok stop
  | .cut wanted _ => .error (.ofFault wanted)

/-- A list must end here, whatever else could follow in its text. -/
def nothingMore (o : Origin) (seen : Nat) (items : List Node) (ending : Ending) :
    Except Refusal Unit :=
  match items, ending with
  | [], .closed _ => .ok ()
  | [], .cut wanted _ =>
    match wanted.flaw with
    | .expectedListEnd | .eofInValue =>
      .error (.ofFault { wanted with flaw := .trailingCharacters })
    | _ => .error (.ofFault wanted)
  | item :: _, _ =>
    match o with
    | .written => .error (.ofFault ⟨.trailingCharacters, item.start + 1⟩)
    | .kept =>
      o.refuse 0 (.wrongLength (seen + items.length) (elements seen ++ " in sequence"))

end Ending

abbrev Found := List (String × Value)

namespace Member

def isAbsent (field : Member σ) : Node → Bool
  | .null _ => match field.need with | .optional => true | _ => false
  | _ => false

def settle (o : Origin) (stop : Nat) (found : Found) (field : Member σ) : Except Refusal Value :=
  match found.lookup field.name with
  | some value => .ok value
  | none =>
    match field.need with
    | .required => o.refuse stop (.missing field.name)
    | .optional => .ok .null
    | .instead value => .ok value

end Member

def variantIndex (names : List String) (tag : Node) : Except Complaint Nat :=
  match tag with
  | .text name _ =>
    match names.idxOf? name with
    | some i => .ok i
    | none => .error (.unknown name names)
  | .number (.whole (.ofNat n)) _ =>
    if n < names.length then .ok n
    else
      .error (.wrongValue (.number (.whole n))
        ("variant index 0 <= i < " ++ Decimal.text names.length))
  | _ =>
    match tag.finding with
    | .ok found => .error (.wrongType found "variant identifier")
    | .error fault => .error (.flaw fault.flaw)

namespace Node

def soleName (o : Origin) (names : List String) (members : List (Key × Node)) (ending : Ending) :
    Except Refusal Value :=
  match o, members with
  | .written, [] =>
    match ending with
    | .closed stop => .error (.ofFault ⟨.expectedValue, stop⟩)
    | .cut wanted _ =>
      .error (.ofFault (if wanted.flaw = .eofInObject then { wanted with flaw := .eofInValue }
        else wanted))
  | .kept, [] => o.refuse 0 (.wrongValue .object "map with a single key")
  | _, (key, value) :: rest => do
    if o = .kept ∧ !rest.isEmpty then o.refuse 0 (.wrongValue .object "map with a single key")
    if let some fault := key.fault then throw (.ofFault fault)
    unless key.name ∈ names do o.refuse key.stop (.unknown key.name names)
    match o, value with
    | _, .null _ => pure ()
    | .kept, .object _ _ [] _ => pure ()
    | _, _ => mismatch o value "unit"
    match o, rest, ending with
    | .written, _ :: _, _ => .error (.ofFault ⟨.expectedValue, key.after⟩)
    | .written, [], .cut wanted _ =>
      if wanted.flaw = .eofInObject then .error (.ofFault wanted)
      else .error (.ofFault ⟨.expectedValue, key.after⟩)
    | _, _, _ => return .text key.name

def conformChoice (o : Origin) (names : List String) (node : Node) : Except Refusal Value :=
  match o, node with
  | _, .text name span =>
    if name ∈ names then .ok (.text name) else o.refuse span.stop (.unknown name names)
  | _, .object start deep members ending =>
    if o = .written ∧ deep then .error (.ofFault ⟨.tooDeep, start + 1⟩)
    else soleName o names members ending
  | _, .spoilt start mark wanted _ =>
    if mark = .other then .error (.ofFault ⟨.expectedValue, start + 1⟩)
    else .error (.ofFault wanted)
  | .written, _ => .error (.ofFault ⟨.expectedValue, node.start + 1⟩)
  | .kept, _ => mismatch o node "string or map"

def conformScalar (o : Origin) (shape : Shape) (node : Node) : Except Refusal Value :=
  match shape, node with
  | .text, .text s _ => .ok (.text s)
  | .text, _ => mismatch o node "a string"
  | .stamp, .text s span =>
    match Time.Instant.read s with
    | .ok t => .ok (.text t.text)
    | .error flaw => o.refuse span.stop (.stamp flaw)
  | .stamp, _ => mismatch o node "an RFC 3339 formatted date and time string"
  | .flag, .bool b _ => .ok (.bool b)
  | .flag, _ => mismatch o node "a boolean"
  | .whole name least greatest, .number (.whole n) span =>
    if least ≤ n ∧ n ≤ greatest then .ok (.int n)
    else o.refuse span.stop (.wrongValue (.number (.whole n)) name)
  | .whole name _ _, _ => mismatch o node name
  | .choice names, _ => conformChoice o names node
  | .list _, _ => mismatch o node "a sequence"
  | .record title _, _ => mismatch o node title
  | .merged title .., _ => mismatch o node title

def shallow (o : Origin) (start : Nat) (deep : Bool) : Except Refusal Unit :=
  if o = .written ∧ deep then .error (.ofFault ⟨.tooDeep, start + 1⟩) else .ok ()

mutual

def conform (o : Origin) (shape : Shape) : Node → Except Refusal Value
  | .list start deep items ending =>
    match shape with
    | .list item => do
      shallow o start deep
      let values ← conformItems o item items
      let _ ← ending.stop
      return .list values
    | .record title fields => do
      shallow o start deep
      return .list (← conformSlots o title fields.length fields ending items)
    | shape => conformScalar o shape (.list start deep items ending)
  | .object start deep members ending =>
    match shape with
    | .record _ fields => do
      shallow o start deep
      let found ← conformMembers o fields [] members
      let stop ← ending.stop
      return .list (← fields.mapM (Member.settle o stop found))
    | .merged _ own tag variants => do
      shallow o start deep
      let found ← conformOwn own [] members
      let stop ← ending.stop
      let values ← own.mapM (Member.settle .written stop found)
      let variant : Nat ←
        match members.filter (fun member => member.1.name == tag) with
        | [] => Origin.written.refuse stop (.missing tag)
        | [(_, value)] =>
          match variantIndex (variants.map (·.name)) value with
          | .ok i => pure i
          | .error complaint => Origin.written.refuse stop complaint
        | _ => Origin.written.refuse stop (.duplicate tag)
      match variants[variant]? with
      | none => return .list values
      | some variant =>
        match conformMembers .kept variant.fields [] members with
        | .error refusal => Origin.written.refuse stop refusal.complaint
        | .ok rest =>
          let more ← variant.fields.mapM (Member.settle .written stop rest)
          return .list (values ++ .text variant.name :: more)
    | shape => conformScalar o shape (.object start deep members ending)
  | .null span => conformScalar o shape (.null span)
  | .bool b span => conformScalar o shape (.bool b span)
  | .number n span => conformScalar o shape (.number n span)
  | .text s span => conformScalar o shape (.text s span)
  | .spoilt start mark wanted passed => conformScalar o shape (.spoilt start mark wanted passed)

def conformItems (o : Origin) (shape : Shape) : List Node → Except Refusal (List Value)
  | [] => .ok []
  | item :: rest => do
    let value ← conform o shape item
    let values ← conformItems o shape rest
    return value :: values

def conformSlots (o : Origin) (title : String) (total : Nat) (fields : List (Member Shape))
    (ending : Ending) : List Node → Except Refusal (List Value)
  | [] =>
    match fields with
    | [] => do
      ending.nothingMore o total []
      return []
    | _ => do
      let stop ← ending.stop
      fields.zipIdx.mapM fun (field, i) =>
        match field.need with
        | .required =>
          o.refuse stop (.wrongLength (total - fields.length + i)
            (title ++ " with " ++ elements total))
        | .optional => .ok .null
        | .instead value => .ok value
  | item :: rest =>
    match fields with
    | [] => do
      ending.nothingMore o total (item :: rest)
      return []
    | field :: fields => do
      let value ← if field.isAbsent item then pure .null else conform o field.shape item
      let values ← conformSlots o title total fields ending rest
      return value :: values

def conformMembers (o : Origin) (fields : List (Member Shape)) (found : Found) :
    List (Key × Node) → Except Refusal Found
  | [] => .ok found
  | (key, value) :: rest => do
    if let some fault := key.fault then throw (.ofFault fault)
    match fields.find? (fun field => field.name == key.name) with
    | some field =>
      if (found.lookup key.name).isSome then o.refuse key.settled (.duplicate key.name)
      let settled ← if field.isAbsent value then pure .null else conform o field.shape value
      conformMembers o fields ((key.name, settled) :: found) rest
    | none =>
      if o = .written then
        if let some fault := value.passFault then throw (.ofFault fault)
      conformMembers o fields found rest

/-- The fields found among the members of an object; other members are kept for a variant. -/
def conformOwn (fields : List (Member Shape)) (found : Found) :
    List (Key × Node) → Except Refusal Found
  | [] => .ok found
  | (key, value) :: rest => do
    if let some fault := key.fault then throw (.ofFault fault)
    match fields.find? (fun field => field.name == key.name) with
    | some field =>
      if (found.lookup key.name).isSome then
        Origin.written.refuse key.settled (.duplicate key.name)
      let settled ←
        if field.isAbsent value then pure .null else conform .written field.shape value
      conformOwn fields ((key.name, settled) :: found) rest
    | none =>
      if let some fault := value.keepFault then throw (.ofFault fault)
      conformOwn fields found rest

end

end Node

end Vouch.Json
