import CallContract.Fault
import CallContract.Journal
import CallContract.Rule
import CallContract.Value.Traversal

/-!
# Sessions

The state that checks and builders share: the active settings, the adapters in store, the files
and environment from which settings are loaded, the journal, and the trace of calls. `Run` is a
computation in a session; a fault ends it, and what it did to the session stays done.
-/

namespace CallContract

/-- An entry of the trace: a function that was entered, with its parameters. -/
structure Entry where
  name : String
  arguments : List (String × Value)
  deriving Inhabited

/-- The state of a session. -/
structure Session where
  /-- The values stored under a name. -/
  refs : List (String × Value)
  /-- The predicates known by a name. -/
  predicates : List (String × Value)
  /-- The opaque objects that have attributes, by their names. -/
  tokens : List (String × Value)
  /-- The records of the families that are being made, the innermost first. -/
  records : List Value
  /-- The folders and files. -/
  files : FileTree
  /-- The environment variables that are set. -/
  environment : List (String × String)
  /-- The active settings, once they are loaded. -/
  active : Option Value
  /-- How many times settings were loaded on first use. -/
  loads : Nat
  /-- The adapters in store, the last used first. -/
  adapters : List (Schema × Adapter)
  /-- How many adapters were made. -/
  adaptersMade : Nat
  /-- The journal. -/
  journal : Journal
  /-- The calls so far, in order. -/
  trace : List Entry
  /-- The next number for an object. -/
  next : Nat
  deriving Inhabited

/-- A computation in a session. -/
abbrev Run := ExceptT Fault (StateM Session)

/-- A way to call a value that is a function, with values by position and by name. -/
abbrev Caller := Value → List Value → Fields → Run Value

/-- Ask a predicate about a value by calling it. -/
def Caller.ask (apply : Caller) (predicate v : Value) : Run Value := apply predicate [v] []

/-- The session in which nothing has happened. -/
def Session.start : Session where
  refs := [("ANY", .schema .anything), ("EMPTY_TUPLE", .schema .emptyTuple)]
  predicates := []
  tokens := []
  records := []
  files := .empty
  environment := []
  active := none
  loads := 0
  adapters := []
  adaptersMade := 0
  journal := .start
  trace := []
  next := Label.firstFree

namespace Run

/-- A number that no object has. -/
def freshId : Run Nat := do
  let s ← get
  set { s with next := s.next + 1 }
  return s.next

/-- Write a record into the journal. -/
def record (source message : String) : Run Unit :=
  modify fun s => { s with journal := s.journal.add ⟨source, message⟩ }

/-- Add an entry to the trace. -/
def enter (name : String) (arguments : List (String × Value)) : Run Unit :=
  modify fun s => { s with trace := s.trace ++ [⟨name, arguments⟩] }

/-- A value with all its objects numbered. -/
def number (v : Value) : Run Value := do
  let s ← get
  let (w, next) := v.number s.next
  set { s with next }
  return w

/-- Go on with a result, or end with its fault. -/
def lift {α : Type} (r : Except Fault α) : Run α :=
  match r with
  | .ok a => pure a
  | .error f => throw f

/-- Go on with a result about a path, or end with its fault. -/
def liftPath {α : Type} (r : Except PathDefect α) : Run α := lift (r.mapError Fault.path)

/-- Go on with a value, or end with a fault where there is none. -/
def require {α : Type} (fault : Fault) (r : Option α) : Run α :=
  match r with
  | some a => pure a
  | none => throw fault

/-- The record of the family that is being made. -/
def currentRecord : Run Value := do require .noItem (← get).records.head?

/-- Make a member of a family from its record, which is the current one as long as this takes. -/
def withRecord {α : Type} (record : Value) (make : Run α) : Run α := do
  let outer := (← get).records
  modify fun s => { s with records := record :: outer }
  let result ← tryCatch (Except.ok <$> make) fun fault => return .error fault
  modify fun s => { s with records := outer }
  lift result

end Run

end CallContract
