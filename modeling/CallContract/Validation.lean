import CallContract.Adapter
import CallContract.Rule.Application
import CallContract.Schema.Promotion
import CallContract.Settings.Loading

/-!
# Validation

A value is checked by a schema, or by anything that can be promoted to one. `validate` gives the
checked value and ends with a failure if the value does not match; `attempt` gives the failure as a
value instead, and `check` only tells whether there is none. All other faults end all three.
Strictness that is not given is that of the active settings, which are looked at only after the
adapter is found.
-/

namespace CallContract

/-- Whether a check is strict: as given, or else by the active settings. -/
def strictness : Option Bool → Run Bool
  | some b => return b
  | none => Settings.activeStrict

/-- Check a value by a schema. -/
def validate (apply : Caller) (schema value : Value) (strict : Option Bool) : Run Value := do
  let adapter ← (promote schema).adapter
  let strict ← strictness strict
  match ← adapter.rule.apply apply strict value with
  | .ok w => return w
  | .error issues => throw (.invalid ⟨issues, none, none⟩)

/-- Check a value by a schema; the answer is the checked value or the failure. -/
def attempt (apply : Caller) (schema value : Value) (strict : Option Bool) :
    Run (Except Failure Value) :=
  tryCatch (Except.ok <$> validate apply schema value strict) fun
    | .invalid f => return .error f
    | fault => throw fault

/-- Whether a value matches a schema. -/
def check (apply : Caller) (schema value : Value) (strict : Option Bool) : Run Bool :=
  Except.isOk <$> attempt apply schema value strict

end CallContract
