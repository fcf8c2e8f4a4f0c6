import CallContract.Term.Building
import CallContract.Validation
import CallContract.Value.Operators

/-!
# Evaluation of expressions

The value of an expression in a scope. Only functions written as such inside it close over the
scope; terms are built without one. Operands are evaluated from left to right; a fault ends the
evaluation. Functions are called by the given `apply`, so that an expression itself is evaluated
by recursion on its parts.
-/

namespace CallContract

/-- The result of an operator. -/
def Operator.eval : Operator → Value → Value → Except Fault Value
  | .add, a, b => a.add b
  | .mul, a, b => a.mul b
  | .mod, a, b => a.mod b
  | .lt, a, b => (a.less b).map .bool
  | .eq, a, b => .ok (.bool (a.equals b))

mutual

/-- The value of an expression. -/
def Expr.eval (apply : Caller) (scope : Scope) : Expr → Run Value
  | .var n => Run.require (.noKey (quoted n)) (scope.lookup n)
  | .const t => t.build []
  | .function f => f.build scope
  | .list es => return .list .fresh (← evalAll apply scope es)
  | .tuple es => return .tuple .fresh (← evalAll apply scope es)
  | .cond test yes no => do
    let t ← test.eval apply scope
    if t.isTruthy then yes.eval apply scope else no.eval apply scope
  | .raise alarm text => throw (.raised alarm text)
  | .check s e => do
    let schema ← s.build []
    let v ← e.eval apply scope
    return .bool (← CallContract.check apply schema v none)
  | .validate s e => do
    let schema ← s.build []
    let v ← e.eval apply scope
    CallContract.validate apply schema v none
  | .call f es => do
    let f ← f.eval apply scope
    let args ← evalAll apply scope es
    apply f args []
  | .map items f => do
    let items ← items.eval apply scope
    let f ← f.eval apply scope
    let xs ← Run.require .wrongType items.iterate?
    return .list .fresh (← xs.mapM fun x => apply f [x] [])
  | .fold items f start => do
    let items ← items.eval apply scope
    let f ← f.eval apply scope
    let start ← start.eval apply scope
    let xs ← Run.require .wrongType items.iterate?
    xs.foldlM (fun acc x => apply f [acc, x] []) start
  | .binary op a b => do
    let a ← a.eval apply scope
    let b ← b.eval apply scope
    Run.lift (op.eval a b)
  | .not e => return .bool !(← e.eval apply scope).isTruthy
  | .len e => do
    let v ← e.eval apply scope
    Run.lift v.len
  | .str e => do
    let v ← e.eval apply scope
    return .text (← Run.lift v.tell)

/-- The values of the expressions of a list. -/
def evalAll (apply : Caller) (scope : Scope) : List Expr → Run (List Value)
  | [] => return []
  | e :: es => return (← e.eval apply scope) :: (← evalAll apply scope es)

end

end CallContract
