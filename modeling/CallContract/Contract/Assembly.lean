import CallContract.Contract.Building
import CallContract.Term.Building

/-!
# Assembling contracts from terms

The contract or checked function that a term stands for. A chain of steps goes on only from a
contract: once it has an implementation, it is a function and has no more steps.
-/

namespace CallContract

/-- The contract that a value is, where steps follow. -/
def Value.contract? : Value → Option Contract
  | .contract c => some c
  | _ => none

/-- The function that an optional term stands for, or nothing. -/
def buildImplementation (scope : Scope) : Option FunctionTerm → Run Value
  | none => return .null
  | some f => f.build scope

/-- Take one step of a chain. -/
def BuildStep.take (scope : Scope) (v : Value) (step : BuildStep) : Run Value := do
  let c ← Run.require .noAttribute v.contract?
  match step with
  | .args ss => return .contract (c.withArgs (← buildSchemas scope ss))
  | .returns s => return .contract (c.withReturns (← s.build scope))
  | .mode t => do
    let mode ← t.build scope
    return .contract (← Run.lift (c.withMode mode))
  | .implement f => do
    let implementation ← f.build scope
    c.implement implementation

/-- The contract or checked function that a term stands for. -/
def ContractTerm.build (scope : Scope) : ContractTerm → Run Value
  | .direct args returns implementation mode => do
    let args ← buildOptionalSchema scope args
    let returns ← buildOptionalSchema scope returns
    let implementation ← buildImplementation scope implementation
    let mode ← buildOptional scope mode
    Contract.make args returns implementation (mode.getD .null)
  | .chain none steps => steps.foldlM (BuildStep.take scope) (.contract .empty)
  | .chain (some start) steps => do
    let v ← start.build scope
    steps.foldlM (BuildStep.take scope) v
  | .contract args returns mode => do
    let args ← buildOptionalSchema scope args
    let returns ← buildOptionalSchema scope returns
    let mode ← buildOptional scope mode
    return .contract (.raw args returns mode)
  | .checked term implementation => do
    let v ← term.build scope
    let implementation ← implementation.build scope
    Contract.checked v implementation
  | .ref n => Run.stored n
  | .currentRecord => Run.currentRecord

end CallContract
