import CallContract.Contract.Call
import CallContract.Contract.Family
import CallContract.Engine
import CallContract.Expr.Evaluation

/-!
# Calls

What a call of a value does (`Value.callBy`), for each sort of value that can be called, and the
call itself (`call`), which counts how deep calls are nested. Entering a definition or a predicate
leaves an entry in the trace.
-/

namespace CallContract

/-- The first of the greatest items, measured by a key; `best` is the greatest item so far with its
key. -/
def greatestBy (key : Value → Run Value) (best : Value × Value) : List Value → Run Value
  | [] => return best.1
  | x :: rest => do
    let k ← key x
    if ← Run.lift (best.2.less k) then greatestBy key (x, k) rest
    else greatestBy key best rest

/-- The greatest of the items, or the default for none. -/
def greatest (key : Value → Run Value) (default : Option Value) : List Value → Run Value
  | [] => Run.require (.wrongValue "max() arg is an empty sequence") default
  | x :: rest => do
    let k ← key x
    greatestBy key (x, k) rest

/-- The greatest of several arguments or of the items of one. -/
def callMax (apply : Caller) (args : List Value) (kw : Keywords) : Run Value := do
  if kw.any fun (n, _) => n != "key" && n != "default" then throw .wrongType
  let key (x : Value) : Run Value := match kw.lookup "key" with
    | none => return x
    | some .null => return x
    | some f => apply f [x] []
  match args, kw.lookup "default" with
  | [v], default => do
    let xs ← Run.require .wrongType v.iterate?
    greatest key default xs
  | x :: y :: rest, none => greatest key none (x :: y :: rest)
  | _, _ => throw .wrongType

/-- Call a function that exists from the start. -/
def Builtin.call (apply : Caller) (b : Builtin) (args : List Value) (kw : Keywords) : Run Value :=
  match b, args, kw with
  | .len, [v], [] => Run.lift v.len
  | .abs, [v], [] => Run.lift v.abs
  | .sum, [v], [] => Run.lift (v.sum (.int 0))
  | .sum, [v, start], [] => Run.lift (v.sum start)
  | .sum, [v], [("start", start)] => Run.lift (v.sum start)
  | .max, args, kw => callMax apply args kw
  | _, _, _ => throw .wrongType

/-- The variables of a call with all their objects numbered, so that each stays one object however
often it is used. -/
def numberFields (fields : Fields) : Run Fields :=
  fields.mapM fun (n, v) => return (n, ← Run.number v)

/-- Call a definition. A definition of the pending kind is not entered yet. -/
def Definition.call (apply : Caller) (d : Definition) (args : List Value) (kw : Keywords) :
    Run Value := do
  if d.kind = .object ∧ kw.has "self" then throw .wrongType
  let bound ← Run.require .wrongType (enter d.parameters args kw)
  if d.kind = .pending then return .pending (← Run.freshId) d.ownName
  let bound ← numberFields bound
  Run.enter d.name bound
  d.body.eval apply (bound ++ d.scope)

namespace Predicate

/-- The parameters of a predicate. -/
def parameters : Signature := [⟨subjectName, .standard, none⟩]

/-- The name of a predicate in the trace. -/
def tracedName (name : String) : String := "pred:" ++ name

/-- Call a predicate. -/
def call (apply : Caller) (name : String) (body : Expr) (args : List Value) (kw : Keywords) :
    Run Value := do
  let bound ← Run.require .wrongType (enter parameters args kw)
  let bound ← numberFields bound
  Run.enter (tracedName name) bound
  body.eval apply bound

end Predicate

/-- Call a function. -/
def Function.callBy (apply : Caller) (f : Function) (args : List Value) (kw : Keywords) :
    Run Value :=
  match f with
  | .defined _ d => d.call apply args kw
  | .applied _ inner _ => apply inner args kw
  | .builtin b => b.call apply args kw
  | .predicate name body _ => Predicate.call apply name body args kw
  | .checked _ c implementation face => Contract.call apply c implementation face args kw
  | .generic _ fields => Family.instantiate apply fields args kw
  | .factory _ _ _ result _ => Family.produce result args kw

/-- A point from its coordinates, which are given by name. -/
def callPoint (args : List Value) (kw : Keywords) : Except Fault Value :=
  if !args.isEmpty then .error .wrongType
  else match applyPoint false (.dict .fresh (kw.map fun (n, v) => (.text n, v))) with
    | .ok p => .ok p
    | .error issues => .error (.unfit issues)

/-- Call a value. -/
def Value.callBy (apply : Caller) (v : Value) (args : List Value) (kw : Keywords) : Run Value :=
  match v with
  | .function f => f.callBy apply args kw
  | .type .point => Run.lift (callPoint args kw)
  | .type t => Run.lift (t.call args kw)
  | .form _ .marked (inner :: _) => inner.callBy apply args kw
  | .form _ (.validator strict) [checked] => match args, kw with
    | [v], [] => checked.validateBy apply strict v
    | _, _ => throw .wrongType
  | .form _ f _ => match f.base? with
    | some t => Run.lift (t.call args kw)
    | none => throw .wrongType
  | _ => throw .wrongType

/-- A call of a validator asks it about a value, or is none that it takes. -/
theorem Value.callBy_validator (l : Label) (strict : Bool) (xs args : List Value) (kw : Keywords) :
    (∃ checked v : Value, ∀ apply, (Value.form l (.validator strict) xs).callBy apply args kw =
        checked.validateBy apply strict v) ∨
      ∀ apply, (Value.form l (.validator strict) xs).callBy apply args kw = throw .wrongType := by
  rcases xs with _ | ⟨x, _ | ⟨y, xs⟩⟩
  · exact .inr fun _ => rfl
  · rcases args with _ | ⟨v, _ | ⟨w, args⟩⟩ <;> cases kw <;>
      first | exact .inl ⟨x, v, fun _ => rfl⟩ | exact .inr fun _ => rfl
  · exact .inr fun _ => rfl

/-- Call a value, with calls nested at most so deep. -/
def callWithin : Nat → Caller
  | 0, _, _, _ => throw .tooDeep
  | depth + 1, v, args, kw => v.callBy (callWithin depth) args kw

/-- How deep calls may be nested. -/
def callDepth : Nat := 3000

/-- Call a value. -/
def call : Caller := callWithin callDepth

@[simp] theorem callWithin_succ (depth : Nat) (v : Value) (args : List Value) (kw : Keywords) :
    callWithin (depth + 1) v args kw = v.callBy (callWithin depth) args kw := rfl

end CallContract
