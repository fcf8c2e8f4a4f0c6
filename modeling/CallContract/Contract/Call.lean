import CallContract.Contract.Building
import CallContract.Signature.Lookup
import CallContract.Validation
import CallContract.Value.Operators

/-!
# Calls of checked functions

A call of a checked function goes from the caller through the gate of the arguments to the
implementation, and from there through the gate of the result back to the caller. The mode of the
contract says which of the gates are there. A gate hands on the checked value; what does not
match ends the call with a failure that names the boundary and the function. The implementation
is not called if the gate of the arguments fails, and its own faults pass through as they are.

A checked function made by the unchecked constructor may have any value in place of its contract,
and its contract any value in place of a mode. Both are asked for what is needed by name.
-/

namespace CallContract

/-- The name that tells whether a mode enforces a boundary. -/
def Boundary.switchName : Boundary → String
  | .args => "validates_args"
  | .result => "validates_return"

/-- The name of the schema for a boundary. -/
def Boundary.schemaName : Boundary → String
  | .args => "args_schema"
  | .result => "return_schema"

/-- What a value has under a name, or the fault that it has nothing there. -/
def Value.ask (v : Value) (name : String) : Except Fault Value :=
  match v.attribute? name with
  | some w => .ok w
  | none => .error .noAttribute

/-- Whether a boundary is enforced by a value in place of a mode. -/
def Value.enforces (mode : Value) (b : Boundary) : Except Fault Bool :=
  (mode.ask b.switchName).map Value.isTruthy

@[simp] theorem Value.enforces_mode (m : Mode) (b : Boundary) :
    (Value.mode m).enforces b = .ok (m.enforces b) := by
  cases b <;>
    simp [enforces, ask, attribute?, Boundary.switchName, isTruthy, Except.map]

namespace Contract

/-- Check a value at a boundary of the function `name`. A failure is recorded, which needs a name
that can be written. -/
def gate (apply : Caller) (boundary : Boundary) (name : Value) (schema v : Value) : Run Value :=
  tryCatch (validate apply schema v none) fun
    | .invalid f => do
      let shown ← Run.lift name.tell
      Run.record source
        ("[VALIDATION] " ++ boundary.word ++ " check failed for " ++ shown ++ ": " ++ f.text)
      throw (.invalid (f.withContext boundary name))
    | fault => throw fault

/-- Give by position what is given by name, as far as the signature allows. Without keywords or
without a signature, the arguments stay as they are. -/
def bindKeywords (signature : Option Signature) (args : List Value) (kw : Keywords) :
    Except BindingFault (List Value × Keywords) :=
  match kw, signature with
  | [], _ => .ok (args, [])
  | kw, none => .ok (args, kw)
  | kw, some sig => do
    let bindings ← bind sig args kw
    return (bindings.positional, bindings.named)

/-- The arguments as they come out of the gate. -/
def gateArgs (apply : Caller) (c : Value) (face : Face) (args : List Value) (kw : Keywords) :
    Run (List Value × Keywords) := do
  match bindKeywords face.signature args kw with
  | .error f => throw (.binding f)
  | .ok (args, kw) =>
    let schema ← Run.lift (c.ask Boundary.args.schemaName)
    let gated ← gate apply .args face.name schema (.tuple .fresh args)
    let args ← Run.require .wrongType gated.iterate?
    return (args, kw)

/-- Call an implementation through the gates of its contract. The checked function itself takes the
place of the keyword `self`. -/
def call (apply : Caller) (c implementation : Value) (face : Face) (args : List Value)
    (kw : Keywords) : Run Value := do
  if kw.has "self" then throw .wrongType
  let mode ← Run.lift (c.ask "mode")
  let (args, kw) ←
    if ← Run.lift (mode.enforces .args) then gateArgs apply c face args kw else pure (args, kw)
  let result ← apply implementation args kw
  if ← Run.lift (mode.enforces .result) then
    let schema ← Run.lift (c.ask Boundary.result.schemaName)
    gate apply .result face.name schema result
  else return result

end Contract

end CallContract
