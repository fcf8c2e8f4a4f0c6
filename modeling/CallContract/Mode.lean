import CallContract.Text.Blank

/-!
# Modes and boundaries

A checked function has two boundaries, its arguments and its return value. A mode says which of
them are enforced (`Mode.enforces`); the two are decided independently. A mode can be named by a
text in any case and with blanks around it (`Mode.ofText?`).
-/

namespace CallContract

/-- The two places at which a checked function can be gated. -/
inductive Boundary where
  | args
  | result
  deriving DecidableEq, Repr, Inhabited

/-- The boundaries that a checked function enforces. -/
inductive Mode where
  | none
  | args
  | ret
  | both
  deriving DecidableEq, Repr, Inhabited

/-- The word for a boundary. -/
def Boundary.word : Boundary → String
  | .args => "args"
  | .result => "return"

namespace Mode

/-- The word for a mode. -/
def word : Mode → String
  | none => "none"
  | args => "args"
  | ret => "ret"
  | both => "both"

/-- All modes. -/
def all : List Mode := [none, args, ret, both]

/-- Whether a mode enforces a boundary. -/
def enforces : Mode → Boundary → Bool
  | none, _ => false
  | args, b => b == .args
  | ret, b => b == .result
  | both, _ => true

/-- The mode whose word is the given one. -/
def ofWord? (w : List Char) : Option Mode := all.find? fun m => m.word.toList == w

/-- The mode that a text names: its word, in any case and with blanks around it. No letter
outside ASCII has a letter of these words as its lower case. -/
def ofText? (s : String) : Option Mode :=
  ofWord? ((trimBy isBlank s.toList).map Char.toLower)

@[simp] theorem ofWord?_word (m : Mode) : ofWord? m.word.toList = some m := by
  cases m <;> decide

/-- A mode is named exactly by the texts that are its word once trimmed and put in lower
case. -/
theorem ofText?_eq_some_iff {s : String} {m : Mode} :
    ofText? s = some m ↔ (trimBy isBlank s.toList).map Char.toLower = m.word.toList := by
  constructor
  · intro h
    unfold ofText? ofWord? at h
    have word : m.word.toList = (trimBy isBlank s.toList).map Char.toLower := by
      simpa using List.find?_some h
    exact word.symm
  · intro h
    rw [ofText?, h, ofWord?_word]

@[simp] theorem enforces_both (b : Boundary) : both.enforces b = true := rfl

@[simp] theorem enforces_none (b : Boundary) : none.enforces b = false := rfl

end Mode

end CallContract
