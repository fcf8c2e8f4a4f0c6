import CallContract.Value

/-!
# Going through a value

`Value.traverse` goes through all that a value holds, from the inside out, and makes it anew. A
visitor says what becomes of each label and of each value whose parts are done. So numbering the
objects of a value and changing one of them wherever it is held are the same walk.
-/

namespace CallContract

/-- What becomes of the labels and values met on the way. -/
structure Visitor (m : Type → Type) where
  label : Label → m Label
  value : Value → m Value

variable {m : Type → Type} [Monad m]

mutual

/-- A value made anew. -/
def Value.traverse (vis : Visitor m) : Value → m Value
  | .nan l => do vis.value (.nan (← vis.label l))
  | .list l xs => do vis.value (.list (← vis.label l) (← traverseAll vis xs))
  | .tuple l xs => do vis.value (.tuple (← vis.label l) (← traverseAll vis xs))
  | .set l xs => do vis.value (.set (← vis.label l) (← traverseAll vis xs))
  | .frozenset l xs => do vis.value (.frozenset (← vis.label l) (← traverseAll vis xs))
  | .dict l es => do vis.value (.dict (← vis.label l) (← traverseEntries vis es))
  | .point l x y fs => do
    vis.value (.point (← vis.label l) (← x.traverse vis) (← y.traverse vis)
      (← traverseFields vis fs))
  | .token n fs => do vis.value (.token n (← traverseFields vis fs))
  | .record l fs => do vis.value (.record (← vis.label l) (← traverseFields vis fs))
  | .form l f xs => do vis.value (.form (← vis.label l) f (← traverseAll vis xs))
  | .schema s => return (← s.traverse vis).toValue
  | .contract c => do vis.value (.contract (← c.traverse vis))
  | .function f => do vis.value (.function (← f.traverse vis))
  | .settings l m s fs => do
    vis.value (.settings (← vis.label l) m s (← traverseFields vis fs))
  | v => vis.value v

/-- The values of a list made anew. -/
def traverseAll (vis : Visitor m) : List Value → m (List Value)
  | [] => return []
  | v :: vs => return (← v.traverse vis) :: (← traverseAll vis vs)

/-- The entries of a dictionary made anew. -/
def traverseEntries (vis : Visitor m) : List (Value × Value) → m (List (Value × Value))
  | [] => return []
  | (k, v) :: es => return (← k.traverse vis, ← v.traverse vis) :: (← traverseEntries vis es)

/-- Fields made anew. -/
def traverseFields (vis : Visitor m) : List (String × Value) → m (List (String × Value))
  | [] => return []
  | (n, v) :: fs => return (n, ← v.traverse vis) :: (← traverseFields vis fs)

/-- A value that may be missing made anew. -/
def traverseOption (vis : Visitor m) : Option Value → m (Option Value)
  | none => return none
  | some v => return some (← v.traverse vis)

/-- Parameters made anew. -/
def traverseParameters (vis : Visitor m) : List (Parameter Value) → m (List (Parameter Value))
  | [] => return []
  | ⟨n, k, d⟩ :: ps => return ⟨n, k, ← traverseOption vis d⟩ :: (← traverseParameters vis ps)

/-- A signature that may be missing made anew. -/
def traverseSignature (vis : Visitor m) :
    Option (List (Parameter Value)) → m (Option (List (Parameter Value)))
  | none => return none
  | some ps => return some (← traverseParameters vis ps)

/-- A schema made anew. -/
def Schema.traverse (vis : Visitor m) : Schema → m Schema
  | .bare l fs => do
    return (← vis.value (.schema (.bare (← vis.label l) (← traverseFields vis fs)))).asPart
  | .primitive l t => return .primitive (← vis.label l) (← t.traverse vis)
  | .any l => return .any (← vis.label l)
  | .refined l b p m => do
    return .refined (← vis.label l) (← b.traverse vis) (← p.traverse vis) (← m.traverse vis)
  | .tuple l ss => return .tuple (← vis.label l) (← traverseSchemas vis ss)
  | .array l e n lo hi => return .array (← vis.label l) (← e.traverse vis) n lo hi
  | .function l a r => return .function (← vis.label l) (← a.traverse vis) (← r.traverse vis)
  | .foreign v => return .foreign (← v.traverse vis)

/-- The schemas of a list made anew. -/
def traverseSchemas (vis : Visitor m) : List Schema → m (List Schema)
  | [] => return []
  | s :: ss => return (← s.traverse vis) :: (← traverseSchemas vis ss)

/-- The mode of a contract made anew. -/
def ModeChoice.traverse (vis : Visitor m) : ModeChoice → m ModeChoice
  | .unset => return .unset
  | .known mode => return .known mode
  | .foreign v => return .foreign (← v.traverse vis)

/-- A contract made anew. -/
def Contract.traverse (vis : Visitor m) : Contract → m Contract
  | ⟨l, a, r, m⟩ => do
    return ⟨← vis.label l, ← a.traverse vis, ← r.traverse vis, ← m.traverse vis⟩

/-- What a function took over made anew. -/
def Face.traverse (vis : Visitor m) : Face → m Face
  | ⟨name, taken, sig⟩ => do
    return ⟨← name.traverse vis, ← traverseFields vis taken, ← traverseSignature vis sig⟩

/-- A definition made anew. -/
def Definition.traverse (vis : Visitor m) : Definition → m Definition
  | ⟨kind, name, ownName, path, ps, body, scope, doc, home, annotations, attributes⟩ => do
    return ⟨kind, name, ownName, path, ← traverseParameters vis ps, body,
      ← traverseFields vis scope, ← doc.traverse vis, ← home.traverse vis,
      ← annotations.traverse vis, ← traverseFields vis attributes⟩

/-- A function made anew. -/
def Function.traverse (vis : Visitor m) : Function → m Function
  | .defined id d => return .defined id (← d.traverse vis)
  | .applied id f fs => return .applied id (← f.traverse vis) (← traverseFields vis fs)
  | .builtin b => return .builtin b
  | .predicate n body fs => return .predicate n body (← traverseFields vis fs)
  | .checked id c f face => do
    return .checked id (← c.traverse vis) (← f.traverse vis) (← face.traverse vis)
  | .generic id fs => return .generic id (← traverseFields vis fs)
  | .factory id n named result fs => do
    return .factory id n named result (← traverseFields vis fs)

end

/-- A label with a number, the next one if it has none. -/
def Label.number : Label → StateM Nat Label
  | .fresh => fun n => (.numbered n, n + 1)
  | l => return l

/-- The visitor that gives numbers to objects. -/
def Visitor.numbering : Visitor (StateM Nat) where
  label := Label.number
  value := pure

/-- A value with all its objects numbered, from the given number on, and the next number. An object
that has been numbered keeps its number, so that later the same object can be told from an equal
one. -/
def Value.number (v : Value) (next : Nat) : Value × Nat := (v.traverse .numbering).run next

end CallContract
