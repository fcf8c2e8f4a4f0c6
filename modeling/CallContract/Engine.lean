import CallContract.Rule.Application
import CallContract.Schema.Annotation

/-!
# Validators of the engine

There are annotations by which the engine checks values in a way of its own (`Value.isOwn`,
`Description.isOwn`): it makes a validator, which is asked about each value. What validators answer
is no part of this library, whose theorems hold for whatever they answer. Only the first of several
described alternatives is found here (`firstAccepted`), if one of them accepts the value; the
outcome of any other check is not given.
-/

namespace CallContract

/-- The rules of alternatives that a dictionary describes and that are tried one after another. -/
def Value.alternatives? : Value → Option (List Rule)
  | .dict _ es =>
    let d := describedEntries es
    let holds (name word : String) : Bool := (d.lookup name).any fun e => e.value.text? == some word
    if holds "type" "union" && holds "mode" "left_to_right" then
      match (d.lookup "choices").bind (·.items) with
      | some (.ok rules) => some rules
      | _ => none
    else none
  | _ => none

/-- What the first of the rules makes of a value that accepts it. -/
def firstAccepted (check : Rule → Run Verdict) : List Rule → Run Value
  | [] => throw .notImplemented
  | r :: rs => do
    match ← check r with
    | .ok w => return w
    | .error _ => firstAccepted check rs

/-- Ask the validator of an annotation about a value. -/
def Value.validateBy (apply : Caller) (type : Value) (strict : Bool) (v : Value) : Run Value :=
  match type.alternatives? with
  | some rules => firstAccepted (fun r => r.apply apply strict v) rules
  | none => throw .notImplemented

end CallContract
