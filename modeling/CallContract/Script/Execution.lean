import CallContract.Call
import CallContract.Contract.Assembly
import CallContract.Journal.Configuration
import CallContract.Script.Ancestry
import CallContract.Script.Answer
import CallContract.Script.Step
import CallContract.Value.Fingerprint

/-!
# Taking steps

`Step.run` is what a step does in a session. `Step.execute` takes a step and gives its outcome
with the session after it; a value may be stored under a name, which only a step that succeeds
does. A fault ends the step and no more: what it did to the session before stays done.
-/

namespace CallContract

/-- The value of a term outside of all functions. -/
def Term.value (t : Term) : Run Value := t.build []

/-- The values of named terms. -/
def namedValues (fields : List (String × Term)) : Run Keywords := buildFields [] fields

/-- Store a value under a name, in place of an older one. Its objects are numbered first. -/
def store (name : String) (v : Value) : Run Unit :=
  modify fun s =>
    let (v, next) := v.number s.next
    { s with refs := (name, v) :: s.refs.filter (·.1 != name), next }

/-- Ask two adapters whether they are one. -/
def sameAdapter (a b : Value) : Run Bool := do
  let x ← (promote a).adapter
  let y ← (promote b).adapter
  return x.id == y.id

/-- The text of a value that is written so that its sort can be seen. A checked function has to have
a word for its mode and schemas to show. -/
def Value.describe (v : Value) : Except Fault String := do
  if let .function (.checked _ c _ _) := v then
    let _ ← (← c.ask "mode").ask "value"
    let _ ← c.ask Boundary.args.schemaName
    let _ ← c.ask Boundary.result.schemaName
  v.show

/-- The factory that a term stands for. -/
def FactoryTerm.build : FactoryTerm → Run Value
  | .define name named result => do
    return .function (.factory (← Run.freshId) name named result [])
  | .raw t => t.value

/-- What is found out about a value that is a family. -/
def Value.inspectFamily (v : Value) : Except Fault Answer := do
  match v with
  | .function (.generic ..) =>
    return .family (← v.show) (v.ownName?.getD .null) (← v.ask "factory")
  | _ => throw .noAttribute

/-- Change the environment: each variable is dropped, and set again if it has a text. A text with
the character zero in it can be neither the name nor the text of a variable that is set. -/
def changeEnvironment : List (String × Option String) → Run Unit
  | [] => return
  | (name, text) :: rest => do
    modify fun s => { s with environment := s.environment.filter (·.1 != name) }
    if let some t := text then
      if name.toList.contains '\x00' || t.toList.contains '\x00' then throw (.path .zero)
      modify fun s => { s with environment := (name, t) :: s.environment }
    changeEnvironment rest

/-- Whether a value that is found at a type becomes a method: plain functions and checked functions
do. -/
def Value.requireMethod (v : Value) : Except Fault Unit :=
  match v with
  | .function (.checked ..) => .ok ()
  | .function (.defined _ d) => if d.kind = .object then .error .noAttribute else .ok ()
  | .function (.factory _ _ named _ _) => if named then .ok () else .error .noAttribute
  | _ => .error .noAttribute

/-- What a method gets in front of its arguments: the value at which it was found, if there is
one. -/
def Value.asReceiver : Value → List Value
  | .null => []
  | v => [v]

/-- The name of the root of all loggers. -/
def rootLogger : String := "root"

/-- A logger by its name: the empty name is that of the root. -/
def describeLogger (j : Journal) (name : String) : Answer :=
  if name = "" then .logger rootLogger (.whole rootLevel) else .logger name (j.levelOf name)

/-- The message of a report line that has none. -/
def standardMessage : Value := .text "Invalid value"

/-- The message of a report line. -/
def ReportLine.messageValue (l : ReportLine) : Run Value :=
  match l.message with
  | some t => t.value
  | none => return standardMessage

/-- The line of a report. -/
def ReportLine.line (l : ReportLine) (message : Value) : Run String := do
  let place ← match l.place with
    | some t => do Run.require .wrongType (← t.value).iterate?
    | none => pure []
  return issueLine (← Run.lift (place.mapM Value.tell)) (← Run.lift message.tell)

/-- The report on given issues, with its boundary and function replaced by each context in
turn. -/
def makeReport (lines : List ReportLine) (boundary function : Option String)
    (contexts : List (Option String × Option String)) : Run Answer := do
  let messages ← lines.mapM ReportLine.messageValue
  let texts ← (lines.zip messages).mapM fun (l, m) => l.line m
  let (boundary, function) := contexts.getLast?.getD (boundary, function)
  return .report (reportText boundary function texts) messages boundary function

/-- The name of the parameter for the settings that others are put over. -/
def baseName : String := "config"

/-- The settings that overrides are put over, and the overrides. The settings can be among the
overrides by name, but not given twice; nothing stands for the active ones. -/
def splitBase (base : Option Value) (overrides : Keywords) :
    Except Fault (Option Value × Keywords) :=
  let given (v : Value) : Option Value := match v with
    | .null => none
    | v => some v
  match base, overrides.lookup baseName with
  | some _, some _ => .error .wrongType
  | some v, none => .ok (given v, overrides)
  | none, some v => .ok (given v, overrides.drop baseName)
  | none, none => .ok (none, overrides)

namespace Step

/-- What a step does. -/
def run : Step → Run Answer
  | .schema s promoted => do
    let v ← s.build []
    return .value (if promoted then .schema (promote v) else v)
  | .validate s t strict => do
    let schema ← s.build []
    let v ← t.value
    return .value (← CallContract.validate CallContract.call schema v strict)
  | .check s t strict => do
    let schema ← s.build []
    let v ← t.value
    return .value (.bool (← CallContract.check CallContract.call schema v strict))
  | .attempt s t strict => do
    let schema ← s.build []
    let v ← t.value
    return .attempt (← CallContract.attempt CallContract.call schema v strict)
  | .sameAdapter a b => do
    let x ← a.build []
    let y ← b.build []
    return .value (.bool (← CallContract.sameAdapter x y))
  | .clearAdapters => do
    CallContract.clearAdapters
    return .value .null
  | .build c => return .value (← c.build [])
  | .value t => return .value (← t.value)
  | .call f args kw => do
    let f ← Run.stored f
    let args ← buildAll [] args
    let kw ← namedValues kw
    return .value (← CallContract.call f args kw)
  | .method f none _ _ => do
    let f ← Run.stored f
    Run.lift f.requireMethod
    return .value (.bool true)
  | .method f (some subject) args kw => do
    let f ← Run.stored f
    let subject ← subject.value
    Run.lift f.requireMethod
    let args ← buildAll [] args
    let kw ← namedValues kw
    return .value (← CallContract.call f (subject.asReceiver ++ args) kw)
  | .inspect target => do
    let v ← Run.stored target
    return .inspection (← Run.lift v.inspect)
  | .resolvedMode target => do
    let c ← Run.require .noAttribute (← Run.stored target).contract?
    return .value (← c.resolvedMode).toValue
  | .print target => do
    let v ← Run.stored target
    return .value (.text (← Run.lift v.describe))
  | .field target name => do
    let v ← Run.stored target
    return .value (← Run.require .noAttribute (v.attribute? name))
  | .assign target name t => do
    let v ← Run.stored target
    let new ← t.value
    CallContract.assign v name new
    return .value .null
  | .equal a b => return .value (.bool ((← Run.stored a).equals (← Run.stored b)))
  | .identical a b => return .value (.bool ((← Run.stored a).sameObject (← Run.stored b)))
  | .sameHash a b => do
    let x ← Run.stored a
    let y ← Run.stored b
    return .value (.bool (← Run.lift (CallContract.sameHash x y)))
  | .asMode t => do
    let v ← t.value
    return .value (.mode (← Run.lift v.asMode))
  | .shouldEnforce mode boundary => do
    let mode ← mode.value
    let boundary ← boundary.value
    return .value (.bool (← Run.lift (CallContract.shouldEnforce mode boundary)))
  | .modeProperties m => return .modeProperties m
  | .family factory => do
    let f ← factory.build
    return .value (← Family.ofFactory f)
  | .instantiate target record kw => do
    let f ← Run.stored target
    let record ← buildOptional [] record
    let kw ← namedValues kw
    return .value (← CallContract.call f record.toList kw)
  | .inspectFamily target => do
    let v ← Run.stored target
    Run.lift v.inspectFamily
  | .environment changes => do
    changeEnvironment changes
    return .value .null
  | .file path content => do
    let files ← Run.liftPath ((← get).files.addFile (.ofText path) content)
    modify fun s => { s with files }
    return .value .null
  | .folder path => do
    let files ← Run.liftPath ((← get).files.addFolder (.ofText path))
    modify fun s => { s with files }
    return .value .null
  | .loadFile path => return .value (.dict .fresh (← Settings.loadFile (.ofText path)))
  | .loadSettings path given => do
    let environment := given.getD (← get).environment
    let settings ← Settings.load (path.map Path.ofText) environment
    return .value (← settings.allocate)
  | .activeSettings => return .value (← Settings.active)
  | .resetSettings => do
    Settings.reset
    return .value .null
  | .newSettings fields => do
    let fields ← namedValues fields
    return .value (← Settings.make fields)
  | .replaceSettings base overrides => do
    let base ← match base with
      | some name => some <$> Run.stored name
      | none => pure none
    let overrides ← namedValues overrides
    let (base, overrides) ← Run.lift (splitBase base overrides)
    return .value (← Settings.replace base overrides)
  | .configureJournal level layout stream => do
    let level ← buildOptional [] level
    CallContract.configureJournal (level.getD standardLevel) layout stream
    let j := (← get).journal
    return .journal j.level j.handlers.length true
  | .readStream stream => return .value (.text (← CallContract.readStream stream))
  | .journal => do
    let j := (← get).journal
    return .journal j.level j.handlers.length false
  | .logger name => return describeLogger (← get).journal name
  | .report lines boundary function contexts => makeReport lines boundary function contexts
  | .configReport message path => return .configReport (withFile message path) path
  | .ancestry name => do
    return .words (← Run.require (.noKey (quoted name)) (Ancestry.of? name))

/-- What a step does, with the value that it answers stored under a name. -/
def runAs (step : Step) (name : Option String) : Run Answer := do
  let answer ← step.run
  if let some f := answer.obstacle? then throw f
  match name, answer with
  | some n, .value v => store n v
  | _, _ => pure ()
  return answer

/-- A session in which nothing has been traced or recorded. -/
def clean (s : Session) : Session :=
  { s with trace := [], journal := { s.journal with records := [] } }

/-- The outcome of a step and the session after it. -/
def execute (step : Step) (name : Option String) (s : Session) : Outcome × Session :=
  let (result, after) := (step.runAs name).run (clean s)
  (⟨result, after.trace, after.journal.records⟩, after)

end Step

end CallContract
