import CallContract.Contract.Call
import CallContract.Session
import CallContract.Value.Attribute

/-!
# Answers to steps

What a step answers if it does not end with a fault: mostly a value, and for steps that look at an
object the things found out about it. An outcome is an answer or a fault with what the step added to
the trace and to the journal.
-/

namespace CallContract

/-- What is found out about a checked function. A plain definition as its implementation also
shows its documentation, and its attributes that the checked function has as well. -/
structure Inspection where
  name : Value
  mode : Value
  args : String
  returns : String
  contract : String
  shown : String
  implementation : Value
  ownName : Value
  definition : Option (Value × List String)

/-- What a step answers. -/
inductive Answer where
  | value (v : Value)
  | attempt (r : Except Failure Value)
  | inspection (i : Inspection)
  | modeProperties (m : Mode)
  | family (shown : String) (ownName factory : Value)
  | journal (level : Numeral) (handlers : Nat) (named : Bool)
  | logger (name : String) (level : Numeral)
  | report (text : String) (messages : List Value) (boundary function : Option String)
  | configReport (text : String) (path : Option String)
  | words (ws : List String)

/-- The sorts of containers that can come back inside themselves. -/
def cyclicKinds : List String := ["list", "dict", "set"]

/-- The fault of a value whose text cannot be written. -/
def Value.textObstacle? (v : Value) : Option Fault :=
  if v.shown?.isSome then none else some .unwritable

mutual

/-- Why a value cannot be written in an answer, if it cannot. Of schemas, contracts, annotations and
families the text is written; a container that comes back inside itself has no end. -/
def Value.obstacle? : Value → Option Fault
  | .list _ xs => firstObstacle? xs
  | .tuple _ xs => firstObstacle? xs
  | .set _ xs => firstObstacle? xs
  | .frozenset _ xs => firstObstacle? xs
  | .dict _ es => entryObstacle? es
  | .point _ x y _ => x.obstacle?.or y.obstacle?
  | .record _ fs => fieldObstacle? fs
  | .function (.applied _ inner _) => inner.obstacle?
  | .function (.generic id fs) => (Value.function (.generic id fs)).textObstacle?
  | .schema s => (Value.schema s).textObstacle?
  | .contract c => (Value.contract c).textObstacle?
  | .form l f xs => (Value.form l f xs).textObstacle?
  | .other kind _ _ => if cyclicKinds.contains kind then some .tooDeep else none
  | _ => none

/-- Why one of some values cannot be written. -/
def firstObstacle? : List Value → Option Fault
  | [] => none
  | v :: vs => v.obstacle?.or (firstObstacle? vs)

/-- Why one of the entries of a dictionary cannot be written. -/
def entryObstacle? : List (Value × Value) → Option Fault
  | [] => none
  | (k, v) :: es => (k.obstacle?.or v.obstacle?).or (entryObstacle? es)

/-- Why one of some fields cannot be written. -/
def fieldObstacle? : List (String × Value) → Option Fault
  | [] => none
  | (_, v) :: fs => v.obstacle?.or (fieldObstacle? fs)

end

/-- Why an answer cannot be written, if it cannot. -/
def Answer.obstacle? : Answer → Option Fault
  | .value v => v.obstacle?
  | .attempt (.ok v) => v.obstacle?
  | _ => none

instance : Inhabited Answer := ⟨.value .null⟩

/-- What comes of a step. -/
structure Outcome where
  result : Except Fault Answer
  trace : List Entry
  records : List Record

/-- Whether an attribute of an implementation is also found at the checked function. -/
def Face.has (face : Face) (name : String) : Bool :=
  checkedNames.contains name || face.taken.any (·.1 == name)

/-- The documentation of a checked function, and those attributes of its implementation that it
has as well, if the implementation is a plain definition. -/
def inspectDefinition (implementation : Value) (face : Face) : Option (Value × List String) :=
  match implementation with
  | .function (.defined _ d) =>
    if d.kind = .object then none
    else some ((face.taken.lookup "__doc__").getD .null,
      ((d.attributes.map (·.1)).filter face.has).mergeSort fun a b => decide (a ≤ b))
  | _ => none

/-- What is found out about a checked function. -/
def Value.inspect (v : Value) : Except Fault Inspection := do
  match v with
  | .function (.checked _ c implementation face) =>
    let mode ← (← c.ask "mode").ask "value"
    let args ← (← c.ask "args_schema").show
    let returns ← (← c.ask "return_schema").show
    let contract ← c.show
    let shown ← v.show
    return {
      name := face.name, mode, args, returns, contract, shown, implementation
      ownName := (face.taken.lookup nameAttribute).getD .null
      definition := inspectDefinition implementation face }
  | _ => throw .noAttribute

end CallContract
