import CallContract.Schema.Promotion
import CallContract.Settings.Loading

/-!
# Building contracts

A contract starts with no arguments, any result and no mode. Each step gives a new contract in
which one of the three is replaced; the earlier contract stays as it is. `Contract.implement` ends
the chain: the mode is settled by the active settings, if no step has set it, and the contract is
joined to an implementation. `Contract.make` does the same steps for parts that are given all
at once.
-/

namespace CallContract

namespace Contract

/-- The source of the records about contracts. -/
def source : String := "contractfn.core.contract"

/-- The contract in which nothing is set. -/
def empty : Contract := ⟨.fresh, .emptyTuple, .anything, .unset⟩

/-- The contract with arguments that match the given schemas in order. -/
def withArgs (c : Contract) (schemas : List Value) : Contract :=
  { c with label := .fresh, args := Schema.tupleOf schemas }

/-- The contract with a result that matches the given schema. -/
def withReturns (c : Contract) (schema : Value) : Contract :=
  { c with label := .fresh, returns := promote schema }

/-- The contract with a mode. -/
def withMode (c : Contract) (mode : Value) : Except Fault Contract :=
  match mode.asMode with
  | .ok m => .ok { c with label := .fresh, mode := .known m }
  | .error f => .error f

/-- The mode that a contract has by now: its own, or else that of the active settings. -/
def resolvedMode (c : Contract) : Run ModeChoice :=
  match c.mode with
  | .unset => Settings.activeMode
  | m => return m

/-- A checked function from a contract, or a value in place of one, whose mode is set. -/
def checked (c implementation : Value) : Run Value := do
  match c.attribute? "mode" with
  | none => throw .noAttribute
  | some .null => throw (.definition .modeMissing)
  | some _ =>
    return .function (.checked (← Run.freshId) c implementation implementation.face)

/-- Join a contract to an implementation. A mode that is none is found only after that, when the
name of the implementation has been written and the word of the mode is asked for. -/
def implement (c : Contract) (implementation : Value) : Run Value := do
  if !implementation.isCallable then
    throw (.definition (.implementationNotCallable implementation.kindName))
  let mode ← c.resolvedMode
  let function ← checked (.contract { c with label := .fresh, mode }) implementation
  let name ← Run.lift implementation.calledName.tell
  let word ← Run.require .noAttribute (mode.toValue.attribute? "value")
  Run.record source ("[CONTRACT] Implemented " ++ name ++
    " (mode=" ++ (← Run.lift word.tell) ++ ")")
  return function

/-- The schema for arguments that are given all at once: a schema for tuples or for anything
stands for itself, a list or tuple for the schemas in it, nothing for any arguments. -/
def argsSchema (v : Value) : Except Fault Schema :=
  match v with
  | .null => .ok .anything
  | .schema (.tuple l items) => .ok (.tuple l items)
  | .schema (.any l) => .ok (.any l)
  | .list _ xs => .ok (Schema.tupleOf xs)
  | .tuple _ xs => .ok (Schema.tupleOf xs)
  | v => .error (.definition (.argsNotSequence v.kindName))

/-- A contract from parts, each of which may be left out, or a checked function if an
implementation is among them. -/
def make (args returns : Option Value) (implementation mode : Value) : Run Value := do
  let c := empty
  let c ← match args with
    | none => pure c
    | some a => do
      let schema ← Run.lift (argsSchema a)
      pure { c with label := .fresh, args := schema }
  let c := match returns with
    | none => c
    | some r => c.withReturns r
  let c ← match mode with
    | .null => pure c
    | m => Run.lift (c.withMode m)
  match implementation with
  | .null => return .contract c
  | f => c.implement f

/-- The mode of a contract that is made by the unchecked constructor. -/
def rawMode : Value → ModeChoice
  | .null => .unset
  | .mode m => .known m
  | v => .foreign v

/-- A contract made by the unchecked constructor. -/
def raw (args returns mode : Option Value) : Contract where
  label := .fresh
  args := (args.map Value.asPart).getD .emptyTuple
  returns := (returns.map Value.asPart).getD .anything
  mode := rawMode (mode.getD .null)

@[simp] theorem withArgs_returns (c : Contract) (xs : List Value) :
    (c.withArgs xs).returns = c.returns := rfl

@[simp] theorem withArgs_mode (c : Contract) (xs : List Value) :
    (c.withArgs xs).mode = c.mode := rfl

@[simp] theorem withReturns_args (c : Contract) (v : Value) :
    (c.withReturns v).args = c.args := rfl

@[simp] theorem withReturns_mode (c : Contract) (v : Value) :
    (c.withReturns v).mode = c.mode := rfl

end Contract

end CallContract
