import CallContract.Value.Equality
import CallContract.Yaml.Merge
import CallContract.Yaml.Scalar

/-!
# From nodes to values

The value of a document: mappings become dictionaries, in which the last entry of a key counts at
the place of the first; sequences become lists; scalars become what their tag or their spelling
says. Each node is made once. A container begins empty and is filled after those that began before
it, so that it can be part of itself. Where a container comes back inside itself, its value is only
a mark (`Content.again`).
-/

namespace CallContract.Yaml

/-- What a container holds. The keys of a dictionary and the members of a set are never
containers. -/
inductive Content where
  | list (items : List NodeId)
  | pairs (ps : List (NodeId × NodeId))
  | dict (entries : List (Value × NodeId))
  | set (members : List Value)

/-- What has been made of a node. -/
inductive Made where
  | nothing
  | value (v : Value)
  /-- A container that has begun and is not filled yet. -/
  | begun
  | filled (c : Content)
  deriving Inhabited

/-- What a document is made with: its nodes, what has been made of them, and the containers in the
order in which they began. -/
structure Making where
  nodes : Nodes
  made : Array Made
  begun : Array NodeId

/-- A computation that makes values of nodes. -/
abbrev Maker := StateT Making (Except Defect)

namespace Maker

/-- A node by its number. -/
def nodeAt (id : NodeId) : Maker Node := do return (← get).nodes.getD id .empty

/-- Say what has been made of a node. -/
def record (id : NodeId) (m : Made) : Maker Made := do
  modify fun s => { s with made := s.made.setIfInBounds id m }
  return m

/-- Go on with a result, or end with its defect. -/
def lift {α : Type} (r : Except Defect α) : Maker α :=
  match r with
  | .ok a => pure a
  | .error d => throw d

/-- The text of a scalar. In place of a scalar a mapping can stand that has one under the mark for a
default. -/
def textOf (nodes : Nodes) : Nat → NodeId → Except Defect String
  | 0, _ => .error .tooDeep
  | fuel + 1, id =>
    match nodes.getD id .empty with
    | .scalar _ text => .ok text
    | .sequence .. => .error .malformed
    | .mapping _ es =>
      match es.find? fun (k, _) => (nodes.getD k .empty).tag == .default with
      | some (_, v) => textOf nodes fuel v
      | none => .error .malformed

/-- The value of a node that is no container. A moment is read from the node itself, which has to be
a scalar. -/
def scalarAt (nodes : Nodes) (id : NodeId) : Except Defect Value := do
  let n := nodes.getD id .empty
  if !n.tag.holdsText then throw .malformed
  let text ← textOf nodes nodes.size id
  match n.tag, n with
  | .moment, .mapping .. => throw .notText
  | tag, _ => textValue tag text

/-- Make a value of a node, or begin a container, unless that has been done. -/
def make (id : NodeId) : Maker Made := do
  let s ← get
  match s.made.getD id .nothing with
  | .nothing =>
    if (s.nodes.getD id .empty).tag.isContainer then
      modify fun s => { s with begun := s.begun.push id }
      record id .begun
    else record id (.value (← lift (scalarAt s.nodes id)))
  | m => return m

/-- Make an entry: the value of its key, which is no container, and the node of its value. -/
def makeEntry (entry : NodeId × NodeId) : Maker (Value × NodeId) := do
  match ← make entry.1 with
  | .value k =>
    let _ ← make entry.2
    return (k, entry.2)
  | _ => throw .malformed

/-- Make a pair, which is given by a mapping of one entry. -/
def makePair (id : NodeId) : Maker (NodeId × NodeId) := do
  match ← nodeAt id with
  | .mapping _ [(k, v)] =>
    let _ ← make k
    let _ ← make v
    return (k, v)
  | _ => throw .malformed

/-- Make the entries of a mapping. -/
def makeEntries (bound : Nat) (id : NodeId) : Maker (List (Value × NodeId)) := do
  let ((), nodes) ← lift ((takeOver bound id).run (← get).nodes)
  modify fun s => { s with nodes }
  match nodes.getD id .empty with
  | .mapping _ es => do
    let made ← es.mapM makeEntry
    return made.foldl (fun es (k, v) => putEntry es k v) []
  | _ => throw .malformed

/-- Fill a container. -/
def fill (bound : Nat) (id : NodeId) : Maker Unit := do
  let content ← match ← nodeAt id with
    | .sequence .sequence items => do
      let _ ← items.mapM make
      pure (Content.list items)
    | .sequence .pairs items => .pairs <$> items.mapM makePair
    | .mapping .mapping _ => .dict <$> makeEntries bound id
    | .mapping .set _ => do pure (.set ((← makeEntries bound id).map (·.1)))
    | _ => throw .malformed
  let _ ← record id (.filled content)

/-- Fill all containers from the `n`-th on. The measure bounds how many there are. -/
def fillFrom (bound : Nat) : Nat → Nat → Maker Unit
  | 0, _ => return
  | fuel + 1, n => do
    match (← get).begun[n]? with
    | none => return
    | some id =>
      fill bound id
      fillFrom bound fuel (n + 1)

/-- Make a node and all its parts. -/
def makeAll (id : NodeId) : Maker Unit := do
  let _ ← make id
  let nodes := (← get).nodes
  fillFrom nodes.entryBound (nodes.size + 1) 0

end Maker

/-- The mark for a container that comes back inside itself. -/
def Content.again (id : NodeId) : Content → Value
  | .list _ => .other "list" "[...]" (toString id)
  | .pairs _ => .other "list" "[...]" (toString id)
  | .dict _ => .other "dict" "\x7b...\x7d" (toString id)
  | .set _ => .other "set" "set(...)" (toString id)

/-- The value of a node that is part of the containers in `path`. The measure bounds how many these
can be. -/
def assemble (made : Array Made) : Nat → List NodeId → NodeId → Value
  | 0, _, _ => .null
  | fuel + 1, path, id =>
    match made.getD id .nothing with
    | .value v => v
    | .filled c =>
      if path.contains id then c.again id
      else
        let inner := assemble made fuel (id :: path)
        match c with
        | .list items => .list .fresh (items.map inner)
        | .pairs ps => .list .fresh (ps.map fun (k, v) => .tuple .fresh [inner k, inner v])
        | .dict entries => .dict .fresh (entries.map fun (k, v) => (k, inner v))
        | .set members => .set .fresh members
    | _ => .null

/-- The value of a node of a document. -/
def valueOf (nodes : Nodes) (id : NodeId) : Except Defect Value := do
  let start : Making := ⟨nodes, Array.replicate nodes.size .nothing, #[]⟩
  let ((), s) ← (Maker.makeAll id).run start
  return assemble s.made (nodes.size + 1) [] id

/-- A text in which every line ends with the same break. -/
def plainLines : List Char → List Char
  | '\r' :: '\n' :: cs => '\n' :: plainLines cs
  | '\r' :: cs => '\n' :: plainLines cs
  | c :: cs => c :: plainLines cs
  | [] => []

/-- The value of the document that a text holds; an empty text holds nothing. -/
def read (text : String) : Except Defect Value := do
  match ← document (plainLines text.toList) with
  | (none, _) => return .null
  | (some id, nodes) => valueOf nodes id

end CallContract.Yaml
