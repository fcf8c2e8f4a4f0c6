import CallContract.Session

/-!
# Configuring the journal

A level is a number, or the name of one in any case. To configure the journal, a handler is
attached to it, if it has none, and then its level is set (`configureJournal`). The handler stays
even if the level turns out to be none.
-/

namespace CallContract

/-- The level of the journal if none is given. -/
def standardLevel : Value := .text "INFO"

/-- The level that a value is, or that its name stands for. -/
def readLevel (v : Value) : Except Fault Numeral :=
  match v with
  | .bool b => .ok (.flag b)
  | .int i => .ok (.whole i)
  | v =>
    match v.text? with
    | none => .error .wrongType
    | some name =>
      let name := upperCase name
      match levelNames.lookup name with
      | some n => .ok (.whole n)
      | none => .error (.unknownLevel name)

/-- Add a handler to a journal that has none; its layout has to have a field. -/
def Journal.attach (j : Journal) (layout : Option String) (stream : String) :
    Except Fault Journal :=
  if j.handlers.isEmpty then
    match Layout.ofText? (layout.getD Layout.standardText) with
    | some l => .ok { j with handlers := [⟨stream, l⟩] }
    | none => .error (.wrongValue "")
  else .ok j

/-- Attach a handler to the journal, if it has none, and then set its level. -/
def configureJournal (level : Value) (layout : Option String) (stream : String) : Run Unit := do
  let journal ← Run.lift ((← get).journal.attach layout stream)
  modify fun s => { s with journal }
  let level ← Run.lift (readLevel level)
  modify fun s => { s with journal := { s.journal with level } }

/-- Read what a stream holds and empty it. -/
def readStream (name : String) : Run String := do
  let (text, journal) := (← get).journal.drain name
  modify fun s => { s with journal }
  return text

end CallContract
