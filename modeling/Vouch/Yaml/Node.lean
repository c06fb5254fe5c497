import Vouch.Yaml.Token

/-!
The documents of a YAML text as trees.

Aliases are replaced by what they stand for.  An alias for a collection that contains it is a knot,
of which nothing can be made.
-/

namespace Vouch.Yaml

inductive Node where
  | scalar (text : String) (style : Style) (tag : Option String)
  | list (items : List Node) (tag : Option String)
  | mapping (members : List (Node × Node)) (tag : Option String)
  | knot
  deriving Repr

/-- Tokens still to be read, the anchors seen so far (the newest first), and the tag handles of the
document. -/
structure Source where
  tokens : List Token
  anchors : List (String × Node)
  handles : List (String × String)
  deriving Repr

namespace Source

def peek (source : Source) : Token := source.tokens.head?.getD .streamEnd

def next (source : Source) : Source := { source with tokens := source.tokens.drop 1 }

def resolve? (source : Source) (tag : Tag) : Option String :=
  if tag.handle = "" then some tag.suffix
  else (source.handles.lookup tag.handle).map (· ++ tag.suffix)

def name (source : Source) (anchor : Option String) (node : Node) : Source :=
  match anchor with
  | some anchor => { source with anchors := (anchor, node) :: source.anchors }
  | none => source

/-- Gives the name of a collection, a knot while it was read, to the finished collection. -/
def finish (before after : Source) (anchor : Option String) (node : Node) : Source :=
  match anchor with
  | some anchor =>
    let newer := after.anchors.take (after.anchors.length - before.anchors.length - 1)
    { after with anchors := newer ++ (anchor, node) :: before.anchors }
  | none => after

end Source

namespace Node

def nothing : Node := .scalar "" .plain none

/-- The anchor and the tag in front of a node, in either order, and whether there is one at all. -/
def properties (source : Source) : Option (Option String × Option String × Bool × Source) :=
  match source.peek with
  | .anchor anchor =>
    let source := source.next
    match source.peek with
    | .tag tag => do return (some anchor, some (← source.resolve? tag), true, source.next)
    | _ => some (some anchor, none, true, source)
  | .tag tag => do
    let tag ← source.resolve? tag
    let source := source.next
    match source.peek with
    | .anchor anchor => return (some anchor, some tag, true, source.next)
    | _ => return (none, some tag, true, source)
  | _ => some (none, none, false, source)

def leavesOut (marks : List Token) (source : Source) : Bool :=
  marks.contains source.peek

mutual

/-- A node.  Block collections are only read where they may stand, and a block sequence without
indentation of its own only as the value or the key of a block mapping. -/
def read (inBlock inMapping : Bool) : Nat → Source → Option (Node × Source)
  | 0, _ => none
  | steps + 1, source =>
    match source.peek with
    | .alias name => do return (← source.anchors.lookup name, source.next)
    | _ => do
      let before := source
      let (anchor, tag, marked, source) ← properties source
      let inner := source.name anchor .knot
      match source.peek with
      | .scalar text style =>
        let node := .scalar text style (if tag = some "!" then none else tag)
        return (node, source.next.name anchor node)
      | .flowSequence => do
        let (items, after) ← flowItems true steps inner.next
        let node := .list items tag
        return (node, before.finish after anchor node)
      | .flowMapping => do
        let (members, after) ← flowMembers true steps inner.next
        let node := .mapping members tag
        return (node, before.finish after anchor node)
      | .blockEntry =>
        if !inMapping then none
        let (items, after) ← plainItems steps inner
        let node := .list items tag
        return (node, before.finish after anchor node)
      | .blockSequence =>
        if !inBlock then none
        let (items, after) ← blockItems steps inner.next
        let node := .list items tag
        return (node, before.finish after anchor node)
      | .blockMapping =>
        if !inBlock then none
        let (members, after) ← blockMembers steps inner.next
        let node := .mapping members tag
        return (node, before.finish after anchor node)
      | _ =>
        if !marked then none
        let node := .scalar "" .plain tag
        return (node, source.name anchor node)

def blockItems : Nat → Source → Option (List Node × Source)
  | 0, _ => none
  | steps + 1, source =>
    match source.peek with
    | .blockEntry => do
      let source := source.next
      let (item, source) ←
        if leavesOut [.blockEntry, .blockEnd] source then some (nothing, source)
        else read true false steps source
      let (items, source) ← blockItems steps source
      return (item :: items, source)
    | .blockEnd => some ([], source.next)
    | _ => none

def plainItems : Nat → Source → Option (List Node × Source)
  | 0, _ => none
  | steps + 1, source =>
    match source.peek with
    | .blockEntry => do
      let source := source.next
      let (item, source) ←
        if leavesOut [.blockEntry, .key, .value, .blockEnd] source then some (nothing, source)
        else read true false steps source
      let (items, source) ← plainItems steps source
      return (item :: items, source)
    | _ => some ([], source)

def blockMembers : Nat → Source → Option (List (Node × Node) × Source)
  | 0, _ => none
  | steps + 1, source =>
    match source.peek with
    | .key => do
      let source := source.next
      let (key, source) ←
        if leavesOut [.key, .value, .blockEnd] source then some (nothing, source)
        else read true true steps source
      let (value, source) ← blockValue steps source
      let (members, source) ← blockMembers steps source
      return ((key, value) :: members, source)
    | .blockEnd => some ([], source.next)
    | _ => none

def blockValue : Nat → Source → Option (Node × Source)
  | 0, _ => none
  | steps + 1, source =>
    match source.peek with
    | .value =>
      let source := source.next
      if leavesOut [.key, .value, .blockEnd] source then some (nothing, source)
      else read true true steps source
    | _ => some (nothing, source)

def flowItems (first : Bool) : Nat → Source → Option (List Node × Source)
  | 0, _ => none
  | steps + 1, source =>
    match source.peek with
    | .flowSequenceEnd => some ([], source.next)
    | _ => do
      let source ←
        if first then some source
        else if source.peek = .flowEntry then some source.next else none
      match source.peek with
      | .flowSequenceEnd => return ([], source.next)
      | .key =>
        let source := source.next
        let (key, source) ←
          if leavesOut [.value, .flowEntry, .flowSequenceEnd] source then
            some (nothing, source.next)
          else read false false steps source
        let (value, source) ← flowValue [.flowEntry, .flowSequenceEnd] steps source
        let (items, source) ← flowItems false steps source
        return (.mapping [(key, value)] none :: items, source)
      | _ =>
        let (item, source) ← read false false steps source
        let (items, source) ← flowItems false steps source
        return (item :: items, source)

def flowMembers (first : Bool) : Nat → Source → Option (List (Node × Node) × Source)
  | 0, _ => none
  | steps + 1, source =>
    match source.peek with
    | .flowMappingEnd => some ([], source.next)
    | _ => do
      let source ←
        if first then some source
        else if source.peek = .flowEntry then some source.next else none
      match source.peek with
      | .flowMappingEnd => return ([], source.next)
      | .key =>
        let source := source.next
        let (key, source) ←
          if leavesOut [.value, .flowEntry, .flowMappingEnd] source then some (nothing, source)
          else read false false steps source
        let (value, source) ← flowValue [.flowEntry, .flowMappingEnd] steps source
        let (members, source) ← flowMembers false steps source
        return ((key, value) :: members, source)
      | _ =>
        let (key, source) ← read false false steps source
        let (members, source) ← flowMembers false steps source
        return ((key, nothing) :: members, source)

def flowValue (marks : List Token) : Nat → Source → Option (Node × Source)
  | 0, _ => none
  | steps + 1, source =>
    match source.peek with
    | .value =>
      let source := source.next
      if leavesOut marks source then some (nothing, source) else read false false steps source
    | _ => some (nothing, source)

end

def standardHandles : List (String × String) :=
  [("!", "!"), ("!!", "tag:yaml.org,2002:")]

def directives : List Token → List (String × String) → Bool →
    Option (List (String × String) × List Token)
  | .version :: rest, handles, versioned =>
    if versioned then none else directives rest handles true
  | .tagHandle handle leading :: rest, handles, versioned =>
    if (handles.lookup handle).isSome then none
    else directives rest ((handle, leading) :: handles) versioned
  | rest, handles, _ => some (handles, rest)

def documents (first : Bool) : Nat → List Token → Option (List Node)
  | 0, _ => none
  | steps + 1, tokens => do
    let tokens := if first then tokens else tokens.dropWhile (· == .documentEnd)
    let bare := match tokens with
      | .version :: _ | .tagHandle .. :: _ | .documentStart :: _ | .streamEnd :: _ => false
      | _ => true
    if tokens.head? == some .streamEnd then return []
    let (handles, tokens) ← directives tokens [] false
    let source : Source := ⟨tokens, [], handles ++ standardHandles⟩
    let (root, source) ←
      if first && bare then read true false (4 * tokens.length + 4) source
      else if source.peek = .documentStart then
        let source := source.next
        match source.peek with
        | .version | .tagHandle .. | .documentStart | .documentEnd | .streamEnd =>
          some (nothing, source)
        | _ => read true false (4 * tokens.length + 4) source
      else none
    let rest := if source.peek = .documentEnd then source.next.tokens else source.tokens
    return root :: (← documents false steps rest)

def documentsOf (text : String) : Option (List Node) := do
  let tokens ← Token.scan text.toList
  documents true (tokens.length + 1) tokens

end Node

end Vouch.Yaml
