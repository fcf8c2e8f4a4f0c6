import CallContract.Yaml.Node

/-!
# Entries taken over

A mapping takes over entries from others: under a key that is the mark for it stands a mapping or a
sequence of mappings. Their entries come before its own, and count where it has none with the same
key. `takeOver` replaces the marks by the entries. A mapping stands for all places that name it, so
that it is changed in place, even while entries are being taken over from it.
-/

namespace CallContract.Yaml

/-- A computation that changes nodes. -/
abbrev Merging := StateT Nodes (Except Defect)

namespace Merging

/-- A node by its number. -/
def nodeAt (id : NodeId) : Merging Node := do return (← get).getD id .empty

/-- Change a node. -/
def replace (id : NodeId) (n : Node) : Merging Unit :=
  modify fun nodes => nodes.setIfInBounds id n

/-- The entries of a mapping. -/
def entriesAt (id : NodeId) : Merging (List (NodeId × NodeId)) := do
  match ← nodeAt id with
  | .mapping _ es => return es
  | _ => throw .malformed

/-- Give a mapping other entries. -/
def setEntries (id : NodeId) (es : List (NodeId × NodeId)) : Merging Unit := do
  replace id (.mapping (← nodeAt id).tag es)

/-- The first of some entries whose key is the mark for entries that are taken over: how many come
before it, after `n` others, and what is under it. A key before it that is the mark for a default
stands for its text from then on. -/
def nextMark (n : Nat) : List (NodeId × NodeId) → Merging (Option (Nat × NodeId))
  | [] => return none
  | (k, v) :: es => do
    let key ← nodeAt k
    match key.tag with
    | .merge => return some (n, v)
    | .default => do
      replace k (key.withTag .text)
      nextMark (n + 1) es
    | _ => nextMark (n + 1) es

/-- Replace the marks among the entries of a mapping by the entries that are taken over, of which
`taken` are known already; the first `n` entries have no marks. The first argument bounds how many
marks there are. -/
def takeOverFrom : Nat → NodeId → Nat → List (NodeId × NodeId) → Merging Unit
  | 0, _, _, _ => throw .malformed
  | marks + 1, id, n, taken => do
    let es ← entriesAt id
    match ← nextMark n (es.drop n) with
    | none => setEntries id (taken ++ es)
    | some (place, source) =>
      setEntries id (es.eraseIdx place)
      let entriesOf (id : NodeId) : Merging (List (NodeId × NodeId)) := do
        let _ ← entriesAt id
        takeOverFrom marks id 0 []
        entriesAt id
      let more ← match ← nodeAt source with
        | .mapping .. => entriesOf source
        | .sequence _ ids => do
          let parts ← ids.mapM entriesOf
          pure parts.reverse.flatten
        | .scalar .. => throw .malformed
      takeOverFrom marks id place (taken ++ more)

end Merging

/-- A number above that of the marks in a document. -/
def Nodes.entryBound (nodes : Nodes) : Nat :=
  nodes.foldl (fun n x => match x with
    | .mapping _ es => n + es.length
    | _ => n) 1

/-- Replace the marks among the entries of a mapping by the entries that are taken over. -/
def takeOver (bound : Nat) (id : NodeId) : Merging Unit := Merging.takeOverFrom bound id 0 []

end CallContract.Yaml
