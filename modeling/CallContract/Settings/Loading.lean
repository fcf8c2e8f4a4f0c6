import CallContract.Settings
import CallContract.Text.Utf8
import CallContract.Value.Attribute
import CallContract.Yaml.Document

/-!
# Loading settings

Settings come in layers: the standard ones, a file, and environment variables; what a later layer
sets counts. The merged layers are then read as by `Settings.ofEntries`. The active settings are
loaded on first use and stay as they are until they are replaced or forgotten. A replacement that
fails leaves them alone.
-/

namespace CallContract

namespace Settings

/-- The source of the records about settings. -/
def source : String := "contractfn.config.loader"

/-- Write a record about settings. -/
def record (message : String) : Run Unit := Run.record source ("[CONFIG] " ++ message)

/-- End with a configuration error. -/
def fail {α : Type} (cause : ConfigCause) (path : Option Path) : Run α :=
  throw (.config ⟨cause, path.map Path.text⟩)

/-- The fault for a document without a value. A malformed one is a configuration error; the other
defects are not told apart from faults elsewhere. -/
def defectFault (path : Path) : Yaml.Defect → Fault
  | .malformed => .config ⟨.notYaml, some path.text⟩
  | .badValue text => .wrongValue text
  | .noWord shown => .noKey shown
  | .noDigits => .noItem
  | .noDate => .noAttribute
  | .notText => .wrongType
  | .tooLarge => .overflow
  | .tooDeep => .tooDeep

/-- The entries in a file. A document that counts as false, such as an empty one, has none; any
other has to be a mapping. -/
def loadFile (path : Path) : Run (List (Value × Value)) := do
  match ← Run.liftPath ((← get).files.find? path) with
  | none => fail .notFound path
  | some .folder => fail .isFolder path
  | some (.file content) =>
    match Scalar.decode? content with
    | none => throw (.notText ((utf8Defect? content).getD ""))
    | some text =>
      match Yaml.read text with
      | .error d => throw (defectFault path d)
      | .ok v =>
        let entries ← match if v.isTruthy then v else .dict .fresh [] with
          | .dict _ es => pure es
          | _ => fail .notMapping path
        record ("Loaded config from " ++ path.text)
        return entries

/-- The layer of the standard settings. -/
def loadStandard : Run (List (Value × Value)) := do
  record "Loaded config from <defaults>"
  return [(.text modeField, .text standard.mode.word), (.text strictField, .bool standard.strict)]

/-- The variable that names a file. -/
def pathVariable : String := "CONTRACTFN_CONFIG"

/-- The variable for the mode. -/
def modeVariable : String := "CONTRACTFN_VALIDATION_MODE"

/-- The variable for strictness. -/
def strictVariable : String := "CONTRACTFN_STRICT"

/-- The text of a variable, if it is set and not empty. -/
def setting? (environment : List (String × String)) (name : String) : Option String :=
  (environment.lookup name).filter (· ≠ "")

/-- The words for true in a variable. -/
def trueWords : List String := ["1", "true", "yes", "on"]

/-- The words for false in a variable. -/
def falseWords : List String := ["0", "false", "no", "off"]

/-- The truth value that a variable names by a word, in any case and with blanks around it. -/
def switch? (s : String) : Option Bool :=
  let word := String.ofList ((trimBy isBlank s.toList).map Char.toLower)
  if trueWords.contains word then some true
  else if falseWords.contains word then some false
  else none

/-- The layer of the environment, with the names of the fields that it sets. -/
def environmentLayer (environment : List (String × String)) :
    Except ConfigCause (List (Value × Value)) :=
  let mode := match setting? environment modeVariable with
    | some m => [(.text modeField, .text m)]
    | none => []
  match setting? environment strictVariable with
  | none => .ok mode
  | some s =>
    match switch? s with
    | some b => .ok (mode ++ [(.text strictField, .bool b)])
    | none => .error (.strictNotBoolean (quoted s))

/-- The layer of the environment, with a record if it sets anything. -/
def loadEnvironment (environment : List (String × String)) : Run (List (Value × Value)) := do
  match environmentLayer environment with
  | .error cause => fail cause none
  | .ok layer =>
    if !layer.isEmpty then
      record ("Environment overrides: [" ++ commas (layer.map fun (k, _) => k.shown) ++ "]")
    return layer

/-- Entries with those of a later layer put over them. -/
def overlay (lower upper : List (Value × Value)) : List (Value × Value) :=
  upper.foldl (fun es (k, v) => putEntry es k v) lower

/-- Load the settings. The file is the one given or else the one that the environment names, if
any. -/
def load (path : Option Path) (environment : List (String × String)) : Run Settings := do
  let base ← loadStandard
  let path := path.or ((setting? environment pathVariable).map Path.ofText)
  let file ← match path with
    | some p => loadFile p
    | none => pure []
  let layer ← loadEnvironment environment
  match ofEntries (overlay (overlay base file) layer) with
  | .ok s => return s
  | .error issues => fail (.unfit issues) path

/-- A new value for settings. -/
def allocate (s : Settings) : Run Value := do
  return s.toValue (.numbered (← Run.freshId))

/-- New settings from fields. -/
def make (fields : Keywords) : Run Value :=
  match ofEntries (fields.map fun (n, v) => (.text n, v)) with
  | .ok s => s.allocate
  | .error issues => throw (.unfit issues)

/-- The active settings, loaded if they are not yet. -/
def active : Run Value := do
  let s ← get
  match s.active with
  | some v => return v
  | none =>
    let settings ← load none s.environment
    let v := settings.toValue (.loaded s.loads)
    modify fun s => { s with active := some v, loads := s.loads + 1 }
    return v

/-- The entries of a value that has fields like settings do. -/
def dump? : Value → Option (List (Value × Value))
  | .settings _ m s _ => some (Settings.toEntries ⟨m, s⟩)
  | .point _ x y _ => some [(.text "x", x), (.text "y", y)]
  | _ => none

/-- The fields of a value that has some like settings do, with the mode as a word. -/
def wordDump? (v : Value) : Option Value :=
  (dump? v).map fun es => .dict .fresh (es.map fun (k, x) => (k, (x.text?.map Value.text).getD x))

/-- Make a value the active settings: the given one or else the active one, with overrides put
over it. -/
def replace (base : Option Value) (overrides : List (String × Value)) : Run Value := do
  let base ← match base with
    | some v => pure v
    | none => active
  let new ←
    if overrides.isEmpty then pure base
    else do
      let entries ← Run.require .noAttribute (dump? base)
      let layer := overrides.map fun (n, v) => (Value.text n, v)
      match ofEntries (overlay entries layer) with
      | .ok s => s.allocate
      | .error issues => fail (.unfit issues) none
  modify fun s => { s with active := some new }
  let dump ← Run.require .noAttribute (wordDump? new)
  record ("Active config: " ++ (← Run.lift dump.show))
  return new

/-- Forget the active settings. -/
def reset : Run Unit := modify fun s => { s with active := none }

/-- Whether checks are strict by the active settings. -/
def activeStrict : Run Bool := do
  match (← active).attribute? strictField with
  | some (.bool b) => return b
  | some .null => return false
  | some _ => throw .wrongType
  | none => throw .noAttribute

/-- The mode of contracts that set none, by the active settings. -/
def activeMode : Run ModeChoice := do
  match (← active).attribute? modeField with
  | some (.mode m) => return .known m
  | some .null => return .unset
  | some v => return .foreign v
  | none => throw .noAttribute

end Settings

end CallContract
