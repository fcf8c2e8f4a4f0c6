import CallContract.Rule.Application
import CallContract.Value.Mode

/-!
# Settings

The settings say which mode a contract has that sets none, and whether values are checked
strictly. They are made from a dictionary with these two fields (`Settings.ofEntries`): the mode
in any of the spellings of `Value.asMode`, the other in any that a lax check takes for a truth
value. Other keys are refused.
-/

namespace CallContract

/-- The settings. -/
structure Settings where
  mode : Mode
  strict : Bool
  deriving DecidableEq, Repr, Inhabited

namespace Settings

/-- The names of the fields, in order. -/
def modeField : String := "default_mode"

/-- The name of the field for strictness. -/
def strictField : String := "strict"

/-- The settings that are not given. -/
def standard : Settings := ⟨.both, true⟩

/-- The settings as a value. -/
def toValue (s : Settings) (label : Label) : Value := .settings label s.mode s.strict []

/-- The fields of settings as the entries of a dictionary. -/
def toEntries (s : Settings) : List (Value × Value) :=
  [(.text modeField, .mode s.mode), (.text strictField, .bool s.strict)]

/-- What a fault says about the mode in a field. -/
def modeComplaint : Fault → Complaint
  | .definition f => .valueError f.message
  | f => f.remark?.getD (.valueError "")

/-- The mode in a field. -/
def readMode (v : Value) : Except (List Issue) Mode :=
  match v.asMode with
  | .ok m => .ok m
  | .error f => .error [⟨[.key modeField], modeComplaint f, v⟩]

/-- The strictness in a field. -/
def readStrict (v : Value) : Except (List Issue) Bool :=
  match Scalar.bool false v with
  | .ok (.bool b) => .ok b
  | .ok _ => .error [⟨[.key strictField], .mismatch .bool, v⟩]
  | .error c => .error [⟨[.key strictField], c, v⟩]

/-- The issue with a key that is no field, if it is none. -/
def keyIssue? (entry : Value × Value) : Option Issue :=
  match entry.1 with
  | .text n =>
    if n = modeField ∨ n = strictField then none
    else some ⟨[.key n], .extraField, entry.2⟩
  | k => some ⟨[keyPlace k], if k.text?.isSome then .extraField else .keyNotText, entry.2⟩

/-- A field of a dictionary, or its standard if it is missing. -/
def readField {α : Type} (entries : List (Value × Value)) (name : String) (standard : α)
    (read : Value → Except (List Issue) α) : Except (List Issue) α :=
  match lookupEntry (.text name) entries with
  | some v => read v
  | none => .ok standard

/-- The issues of a field. -/
def fieldIssues {α : Type} : Except (List Issue) α → List Issue
  | .ok _ => []
  | .error is => is

/-- The settings in a dictionary. The issues are those of the fields, then those of the keys. -/
def ofEntries (entries : List (Value × Value)) : Except (List Issue) Settings :=
  let mode := readField entries modeField standard.mode readMode
  let strict := readField entries strictField standard.strict readStrict
  let extra := entries.filterMap keyIssue?
  match mode, strict, extra with
  | .ok m, .ok s, [] => .ok ⟨m, s⟩
  | mode, strict, extra => .error (fieldIssues mode ++ fieldIssues strict ++ extra)

@[simp] theorem ofEntries_toEntries (s : Settings) : ofEntries s.toEntries = .ok s := by
  obtain ⟨m, b⟩ := s
  cases b <;>
    simp [ofEntries, toEntries, readField, lookupEntry, Value.same, Value.text?, modeField,
      strictField, readMode, readStrict, Scalar.bool, keyIssue?]

end Settings

end CallContract
