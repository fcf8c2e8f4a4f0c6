import CallContract.Yaml.Lexer
import CallContract.Yaml.Tag

/-!
# From tokens to nodes

A document is a graph of scalars, sequences and mappings: a node that is marked by an anchor can
stand in several places, even within itself. So nodes are numbered, and a collection holds the
numbers of its parts. An anchor is known as soon as its node begins.
-/

namespace CallContract.Yaml

/-- The number of a node in its document. -/
abbrev NodeId := Nat

/-- A node of a document. -/
inductive Node where
  | scalar (tag : Tag) (text : String)
  | sequence (tag : Tag) (items : List NodeId)
  | mapping (tag : Tag) (entries : List (NodeId × NodeId))
  deriving Inhabited

/-- The nodes of a document by their numbers. -/
abbrev Nodes := Array Node

namespace Node

/-- The tag of a node. -/
def tag : Node → Tag
  | scalar t _ => t
  | sequence t _ => t
  | mapping t _ => t

/-- The node with another tag. -/
def withTag (n : Node) (t : Tag) : Node :=
  match n with
  | scalar _ s => scalar t s
  | sequence _ xs => sequence t xs
  | mapping _ es => mapping t es

/-- A place where nothing is written. -/
def empty : Node := scalar .null ""

@[simp] theorem tag_withTag (n : Node) (t : Tag) : (n.withTag t).tag = t := by cases n <;> rfl

end Node

/-- What is left to read, in how many collections, and what is known: the beginnings of tags by
their handles, the nodes so far, and which of them have which anchor. -/
structure NodeState where
  tokens : List Token
  depth : Nat
  handles : List (String × String)
  anchors : List (String × NodeId)
  nodes : Nodes

/-- A reader of nodes. -/
abbrev NodeReader := StateT NodeState (Except Defect)

/-- The handles that need no directive. -/
def standardHandles : List (String × String) := [("!", "!"), ("!!", ownTag)]

namespace NodeReader

/-- The next token, which is left in place. -/
def peek : NodeReader Token := do
  match (← get).tokens.headD .streamEnd with
  | .unreadable d => throw d
  | t => return t

/-- Drop the next token. -/
def drop : NodeReader Unit := modify fun s => { s with tokens := s.tokens.drop 1 }

/-- Drop the next token if it is the given one; whether it was. -/
def accept (t : Token) : NodeReader Bool := do
  if (← peek) == t then
    drop
    return true
  else return false

/-- Whether the next token is among the given ones. -/
def sees (ts : List Token) : NodeReader Bool := do
  return ts.contains (← peek)

/-- Drop the next token, which has to be the given one. -/
def expect (t : Token) : NodeReader Unit := do
  if !(← accept t) then throw .malformed

/-- A tag written out in full. -/
def fullTag (name : TagName) : NodeReader String := do
  match name.handle with
  | none => return name.suffix
  | some h =>
    match (← get).handles.lookup h with
    | some beginning => return beginning ++ name.suffix
    | none => throw .malformed

/-- The anchor and tag before a node, in either order. -/
def properties : NodeReader (Option String × Option String) := do
  match ← peek with
  | .anchor a =>
    drop
    match ← peek with
    | .tag t =>
      drop
      return (some a, some (← fullTag t))
    | _ => return (some a, none)
  | .tag t =>
    drop
    match ← peek with
    | .anchor a =>
      drop
      return (some a, some (← fullTag t))
    | _ => return (none, some (← fullTag t))
  | _ => return (none, none)

/-- The node that an alias names. -/
def resolve (name : String) : NodeReader NodeId := do
  match (← get).anchors.lookup name with
  | some id => return id
  | none => throw .malformed

/-- Refuse an anchor that another node has. -/
def requireNew (anchor : Option String) : NodeReader Unit := do
  match anchor with
  | none => return
  | some a => if ((← get).anchors.lookup a).isSome then throw .malformed

/-- A new node, with its anchor, if it has one. -/
def add (anchor : Option String) (n : Node) : NodeReader NodeId := do
  let s ← get
  let id := s.nodes.size
  let marks := (anchor.map fun a => (a, id)).toList
  set { s with nodes := s.nodes.push n, anchors := marks ++ s.anchors }
  return id

/-- Say what a node is that has been read to its end. -/
def finish (id : NodeId) (n : Node) : NodeReader NodeId := do
  modify fun s => { s with nodes := s.nodes.setIfInBounds id n }
  return id

/-- The tag of a collection. Where none is written, or a lone exclamation mark, it is the standard
one. -/
def collectionTag (standard : Tag) (tag : Option String) : Tag :=
  match tag with
  | none => standard
  | some "!" => standard
  | some t => .ofText t

/-- The tag of a scalar. Where none is written it shows in the spelling of a plain one; with a lone
exclamation mark, in any spelling. -/
def scalarTag (tag : Option String) (plain : Bool) (text : String) : Tag :=
  match tag with
  | none => if plain then .ofSpelling text else .text
  | some "!" => .ofSpelling text
  | some t => .ofText t

/-- In how many collections a node can be. -/
def depthLimit : Nat := 4900

/-- Refuse a node in too many collections. -/
def requireDepth : NodeReader Unit := do
  if depthLimit < (← get).depth then throw .tooDeep

/-- Read the parts of a collection. -/
def inside {α : Type} (parts : NodeReader α) : NodeReader α := do
  modify fun s => { s with depth := s.depth + 1 }
  let a ← parts
  modify fun s => { s with depth := s.depth - 1 }
  return a

/-- A sequence. Its anchor is known before its items are read. -/
def sequence (anchor tag : Option String) (items : NodeReader (List NodeId)) :
    NodeReader NodeId := do
  let t := collectionTag .sequence tag
  let id ← add anchor (.sequence t [])
  finish id (.sequence t (← inside items))

/-- A mapping. Its anchor is known before its entries are read. -/
def mapping (anchor tag : Option String) (entries : NodeReader (List (NodeId × NodeId))) :
    NodeReader NodeId := do
  let t := collectionTag .mapping tag
  let id ← add anchor (.mapping t [])
  finish id (.mapping t (← inside entries))

/-- A node of which only the anchor or tag is written. -/
def bare (anchor tag : Option String) : NodeReader NodeId := do
  if anchor.isNone && tag.isNone then throw .malformed
  add anchor (.scalar (scalarTag tag true "") "")

/-- What the context of a node allows: block collections, and sequences that are not indented. -/
inductive Place where
  | flow
  | block
  | blockValue
  deriving DecidableEq

mutual

/-- A node. -/
def node (place : Place) : Nat → NodeReader NodeId
  | 0 => throw .malformed
  | fuel + 1 => do
    requireDepth
    match ← peek with
    | .alias name =>
      drop
      resolve name
    | _ =>
      let (anchor, tag) ← properties
      let first ← peek
      requireNew anchor
      match first with
      | .blockEntry =>
        if place == .blockValue then sequence anchor tag (openItems fuel)
        else bare anchor tag
      | .scalar plain text =>
        drop
        add anchor (.scalar (scalarTag tag plain text) text)
      | .flowSequenceStart =>
        drop
        sequence anchor tag (flowItems true fuel)
      | .flowMappingStart =>
        drop
        mapping anchor tag (flowEntries true fuel)
      | .blockSequenceStart =>
        if place == .flow then bare anchor tag
        else
          drop
          sequence anchor tag (blockItems fuel)
      | .blockMappingStart =>
        if place == .flow then bare anchor tag
        else
          drop
          mapping anchor tag (blockEntries fuel)
      | _ => bare anchor tag

/-- A node, or nothing if one of the given tokens comes first. -/
def nodeUnless (stops : List Token) (place : Place) : Nat → NodeReader NodeId
  | 0 => throw .malformed
  | fuel + 1 => do
    if ← sees stops then add none .empty
    else node place fuel

/-- The items of a block sequence, up to its end. -/
def blockItems : Nat → NodeReader (List NodeId)
  | 0 => throw .malformed
  | fuel + 1 => do
    if ← accept .blockEntry then
      let n ← nodeUnless [.blockEntry, .blockEnd] .block fuel
      return n :: (← blockItems fuel)
    else
      expect .blockEnd
      return []

/-- The items of a sequence that is not indented. -/
def openItems : Nat → NodeReader (List NodeId)
  | 0 => throw .malformed
  | fuel + 1 => do
    if ← accept .blockEntry then
      let n ← nodeUnless [.blockEntry, .key, .value, .blockEnd] .block fuel
      return n :: (← openItems fuel)
    else return []

/-- The entries of a block mapping, up to its end. A value may be missing. -/
def blockEntries : Nat → NodeReader (List (NodeId × NodeId))
  | 0 => throw .malformed
  | fuel + 1 => do
    if ← accept .key then
      let k ← nodeUnless [.key, .value, .blockEnd] .blockValue fuel
      let v ← if ← accept .value then
          nodeUnless [.key, .value, .blockEnd] .blockValue fuel
        else add none .empty
      return (k, v) :: (← blockEntries fuel)
    else
      expect .blockEnd
      return []

/-- The value after a key of a flow collection, which may be missing. -/
def flowValue (close : Token) : Nat → NodeReader NodeId
  | 0 => throw .malformed
  | fuel + 1 => do
    if ← accept .value then nodeUnless [.flowEntry, close] .flow fuel
    else add none .empty

/-- The items of a flow sequence, up to its end. An item with a key is a mapping of one entry. -/
def flowItems (first : Bool) : Nat → NodeReader (List NodeId)
  | 0 => throw .malformed
  | fuel + 1 => do
    if ← accept .flowSequenceEnd then return []
    if !first then expect .flowEntry
    if ← accept .key then
      let n ← mapping none none (flowPair fuel)
      return n :: (← flowItems false fuel)
    else if ← accept .flowSequenceEnd then return []
    else
      let n ← node .flow fuel
      return n :: (← flowItems false fuel)

/-- The only entry of a mapping that is an item of a flow sequence. -/
def flowPair : Nat → NodeReader (List (NodeId × NodeId))
  | 0 => throw .malformed
  | fuel + 1 => do
    let k ← nodeUnless [.value, .flowEntry, .flowSequenceEnd] .flow fuel
    let v ← flowValue .flowSequenceEnd fuel
    return [(k, v)]

/-- The entries of a flow mapping, up to its end. An entry without a key mark has no value. -/
def flowEntries (first : Bool) : Nat → NodeReader (List (NodeId × NodeId))
  | 0 => throw .malformed
  | fuel + 1 => do
    if ← accept .flowMappingEnd then return []
    if !first then expect .flowEntry
    if ← accept .key then
      let k ← nodeUnless [.value, .flowEntry, .flowMappingEnd] .flow fuel
      let v ← flowValue .flowMappingEnd fuel
      return (k, v) :: (← flowEntries false fuel)
    else if ← accept .flowMappingEnd then return []
    else
      let k ← node .flow fuel
      let v ← add none .empty
      return (k, v) :: (← flowEntries false fuel)

end

/-- The directives before a document. The version of the language may be given once and has to
begin with 1; a handle may be given once. -/
def directives : Nat → Bool → List (String × String) → NodeReader (List (String × String))
  | 0, _, _ => throw .malformed
  | fuel + 1, versioned, handles => do
    match ← peek with
    | .version major =>
      drop
      if versioned || major != 1 then throw .malformed
      directives fuel true handles
    | .tagHandle h beginning =>
      drop
      if (handles.lookup h).isSome then throw .malformed
      directives fuel versioned ((h, beginning) :: handles)
    | .directive =>
      drop
      directives fuel versioned handles
    | _ => return handles

/-- Drop the marks for the end of a document. -/
def documentEnds : Nat → NodeReader Unit
  | 0 => return
  | fuel + 1 => do
    if ← accept .documentEnd then documentEnds fuel

/-- Whether a token stands before or after a document, or between two of them. -/
def isOuter : Token → Bool
  | .version _ => true
  | .tagHandle .. => true
  | .directive => true
  | .documentStart => true
  | .documentEnd => true
  | .streamEnd => true
  | _ => false

/-- The only document of a text, if there is one: the number of its outermost node. A text may begin
with a node, or with directives and the mark for the start of a document; a mark for the end may
not come first. -/
def document (fuel : Nat) : NodeReader (Option NodeId) := do
  let first ← peek
  let found ←
    if first == .streamEnd then pure none
    else if first == .documentEnd || !isOuter first then some <$> node .block fuel
    else do
      let handles ← directives fuel false []
      modify fun s => { s with handles := handles ++ standardHandles }
      expect .documentStart
      if isOuter (← peek) then some <$> add none .empty else some <$> node .block fuel
  documentEnds fuel
  if !(← accept .streamEnd) then
    let _ ← directives fuel false []
    throw .malformed
  return found

end NodeReader

/-- The nodes of the only document of a text, and the number of the outermost one, if the text holds
a document. -/
def document (cs : List Char) : Except Defect (Option NodeId × Nodes) := do
  let ts := tokens cs
  let start : NodeState := ⟨ts, 0, standardHandles, [], #[]⟩
  let (found, after) ← (NodeReader.document (8 * ts.length + 16)).run start
  return (found, after.nodes)

end CallContract.Yaml
