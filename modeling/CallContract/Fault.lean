import CallContract.Issue
import CallContract.Path

/-!
# Faults

Everything that can go wrong apart from its place: a value that does not match, a contract that
is built from unfit parts, a configuration that cannot be read or used, arguments that do not fit
a signature, an error raised on purpose, and operations that a value does not support. A fault
says why it arose; its text is in `DefinitionFault.message`, `ConfigFault.message` and
`BindingFault.message`.

`Fault.remark?` says which faults a predicate may give instead of an answer: those that count as
errors in the value or as failed assertions. All others pass through the validation of a value.
-/

namespace CallContract

/-- The three bounds of an array schema. -/
inductive BoundName where
  | length
  | least
  | most
  deriving DecidableEq, Repr, Inhabited

/-- The word for a bound. -/
def BoundName.word : BoundName → String
  | .length => "length"
  | .least => "min_length"
  | .most => "max_length"

/-- Why a schema, contract or family of functions cannot be built. -/
inductive DefinitionFault where
  | unknownMode (shown : String)
  | predicateNotCallable
  | negativeBound (bound : BoundName) (text : String)
  | lengthWithBounds
  | boundsCrossed (least most : String)
  | argsNotSequence (kind : String)
  | implementationNotCallable (kind : String)
  | modeMissing
  | factoryNotCallable (kind : String)
  | recordAndKeywords
  deriving DecidableEq, Repr, Inhabited

/-- The text of a definition fault. -/
def DefinitionFault.message : DefinitionFault → String
  | unknownMode shown =>
    "Unknown validation mode: " ++ shown ++ ". Available: [" ++
      commas (Mode.all.map fun m => quoted m.word) ++ "]"
  | predicateNotCallable => "Refinement predicate must be callable"
  | negativeBound bound text => bound.word ++ " must be non-negative, got " ++ text
  | lengthWithBounds => "length cannot be combined with min_length or max_length"
  | boundsCrossed least most => "min_length (" ++ least ++ ") exceeds max_length (" ++ most ++ ")"
  | argsNotSequence kind =>
    "Arguments schema must be a TupleSchema, ANY, or a sequence of schemas, got " ++ kind
  | implementationNotCallable kind => "Implementation must be callable, got " ++ kind
  | modeMissing => "CheckedFunction needs a contract with a resolved mode"
  | factoryNotCallable kind => "Generic factory must be callable, got " ++ kind
  | recordAndKeywords => "Pass variables either as a record or as keywords, not both"

/-- Why a configuration cannot be had. -/
inductive ConfigCause where
  | notFound
  | isFolder
  | notYaml
  | notMapping
  | strictNotBoolean (shown : String)
  | unfit (issues : List Issue)
  deriving Inhabited

/-- The families of configuration errors. -/
inductive ConfigKind where
  | general
  | notFound
  | parse
  | validation
  deriving DecidableEq, Repr, Inhabited

/-- The family of a cause. -/
def ConfigCause.kind : ConfigCause → ConfigKind
  | notFound => .notFound
  | isFolder => .general
  | notYaml => .parse
  | notMapping => .parse
  | strictNotBoolean _ => .validation
  | unfit _ => .validation

/-- A message with the file that it is about, if one is named. -/
def withFile (message : String) (path : Option String) : String :=
  match path with
  | none => message
  | some "" => message
  | some p => message ++ " (file: " ++ p ++ ")"

/-- A configuration error, with the file it is about. -/
structure ConfigFault where
  cause : ConfigCause
  path : Option String
  deriving Inhabited

/-- The first line of the text of a configuration error. Where the text goes on with a list of
issues or a place in a file, the file is named only after that. -/
def ConfigFault.message (f : ConfigFault) : String :=
  match f.cause with
  | .notFound => withFile "Config file not found" f.path
  | .isFolder => withFile "Config path is a directory, not a file" f.path
  | .notYaml => "Invalid YAML syntax"
  | .notMapping => withFile "Config root must be a mapping (dict)" f.path
  | .strictNotBoolean shown =>
    withFile ("CONTRACTFN_STRICT must be a boolean, got " ++ shown) f.path
  | .unfit issues =>
    "Config validation failed: " ++ toString issues.length ++ " validation error" ++
      (if issues.length = 1 then "" else "s") ++ " for ContractConfig"

/-- Why arguments do not fit a signature. -/
inductive BindingFault where
  | missing (name : String)
  | tooMany
  | twice (name : String)
  | unknown (name : String)
  | positionalByName (name : String)
  deriving DecidableEq, Repr, Inhabited

/-- The text of a binding fault. -/
def BindingFault.message : BindingFault → String
  | missing n => "missing a required argument: " ++ quoted n
  | tooMany => "too many positional arguments"
  | twice n => "multiple values for argument " ++ quoted n
  | unknown n => "got an unexpected keyword argument " ++ quoted n
  | positionalByName n =>
    quoted n ++ " parameter is positional only, but was passed as a keyword"

/-- Anything that ends a computation without a result. -/
inductive Fault where
  /-- A value does not match its schema. -/
  | invalid (f : Failure)
  /-- A schema or contract cannot be built from these parts. -/
  | definition (f : DefinitionFault)
  /-- A configuration cannot be had. -/
  | config (f : ConfigFault)
  /-- The fields of settings or of a point do not fit. -/
  | unfit (issues : List Issue)
  /-- Arguments do not fit a signature. -/
  | binding (f : BindingFault)
  /-- An error raised on purpose. -/
  | raised (alarm : Alarm) (text : String)
  /-- A value is of the wrong type for an operation. -/
  | wrongType
  /-- A value of the right type is not fit for an operation. -/
  | wrongValue (text : String)
  /-- A name that no level of the journal has. -/
  | unknownLevel (name : String)
  /-- A number is too large for an operation. -/
  | overflow
  /-- A division by zero. -/
  | divisionByZero
  /-- A key that is not there, as shown. -/
  | noKey (shown : String)
  /-- A sequence is too short for an operation. -/
  | noItem
  /-- A value does not have an attribute. -/
  | noAttribute
  /-- A checked function cannot be changed. -/
  | immutable
  /-- A field of a schema or contract cannot be changed. -/
  | frozenField (name : String)
  /-- The common base of schemas cannot be used, and neither can a validator that is not here. -/
  | notImplemented
  /-- There is no rule for an annotation. -/
  | noRule
  /-- A rule cannot be made with these bounds. -/
  | badRule
  /-- The name of a type is none. -/
  | unknownName
  /-- The text of a type cannot be read. -/
  | malformedName
  /-- A file does not hold text. -/
  | notText (reason : String)
  /-- A path cannot be used. -/
  | path (d : PathDefect)
  /-- A text has characters for which there are no bytes. -/
  | notEncodable (reason : String)
  /-- The name of a codec is none. -/
  | noCodec
  /-- There is no room for a value. -/
  | outOfMemory
  /-- A name under which nothing is stored. -/
  | noRef (name : String)
  /-- Calls are nested too deeply. -/
  | tooDeep
  deriving Inhabited

namespace Fault

/-- What a predicate's fault says about the value: an error in the value or a failed assertion,
if it is either. -/
def remark? : Fault → Option Complaint
  | invalid f => some (.valueError f.text)
  | raised .value text => some (.valueError text)
  | wrongValue text => some (.valueError text)
  | notText reason => some (.valueError reason)
  | notEncodable reason => some (.valueError reason)
  | path .zero => some (.valueError "embedded null byte")
  | raised .assertion text => some (.assertionError text)
  | _ => none

end Fault

/-- The fault that a whole number has too many digits to be written. -/
def Fault.unwritable : Fault := .wrongValue (Literal.limitText "")

/-- Write a value so that its sort can be seen. -/
def Value.show (v : Value) : Except Fault String :=
  match v.shown? with
  | some s => .ok s
  | none => .error .unwritable

/-- Write what a message shows of a value. -/
def Value.tell (v : Value) : Except Fault String :=
  match v.print? with
  | some s => .ok s
  | none => .error .unwritable

theorem Value.tell_eq_error {v : Value} {e : Fault} (failed : v.tell = .error e) :
    e = .unwritable := by
  unfold tell at failed
  split at failed <;> cases failed
  rfl

@[simp] theorem Value.show_text (s : String) : (Value.text s).show = .ok (quoted s) := by
  simp [Value.show]

end CallContract
