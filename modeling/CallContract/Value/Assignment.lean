import CallContract.Session
import CallContract.Value.Attribute
import CallContract.Value.Equality
import CallContract.Value.Traversal

/-!
# Assignment

To give an object an attribute is to change it wherever it is held. `Value.assign` is the object
after the change; most values refuse it: schemas, contracts, settings and checked functions stay as
they were made. `Session.replace` puts the changed object in the place of the old one in all that
the session holds.
-/

namespace CallContract

/-- Fields with one of them set. -/
def Fields.set (fields : Fields) (name : String) (v : Value) : Fields :=
  if fields.any (·.1 == name) then fields.map fun (n, w) => (n, if n == name then v else w)
  else fields ++ [(name, v)]

/-- The issue with an assignment to settings. -/
def frozenIssue (name : String) (v : Value) : Issue := ⟨[.key name], .frozen, v⟩

/-- Whether a name is for private use. -/
def isPrivate (name : String) : Bool := name.toList.head? == some '_'

/-- Parameters with the defaults of the last ones that can be given by position, which come in
reverse order together with the parameters. -/
def setDefaults : Signature → List Value → Signature
  | [], _ => []
  | p :: ps, vs =>
    if p.kind = .positional ∨ p.kind = .standard then
      { p with default := vs.head? } :: setDefaults ps vs.tail
    else p :: setDefaults ps vs

/-- A parameter with its default if it has to be given by name. -/
def setKeywordDefault (es : List (Value × Value)) (p : Parameter Value) : Parameter Value :=
  if p.kind = .keyword then { p with default := lookupEntry (.text p.name) es } else p

/-- The attributes of a plain function that cannot be set. -/
def fixedNames : List String := ["__globals__", "__closure__", "__builtins__"]

/-- The attributes of a plain function that take no value that could be written. -/
def closedNames : List String := ["__code__", "__class__"]

/-- A definition with an attribute. Some attributes of a plain function have a meaning and take only
values of one sort. -/
def Definition.assign (d : Definition) (name : String) (v : Value) : Except Fault Definition :=
  if d.kind = .object then .ok { d with attributes := Fields.set d.attributes name v }
  else if fixedNames.contains name then .error .noAttribute
  else if closedNames.contains name then .error .wrongType
  else match name, v with
    | "__name__", v => match v.text? with
      | some s => .ok { d with ownName := s }
      | none => .error .wrongType
    | "__qualname__", v => match v.text? with
      | some s => .ok { d with path := s }
      | none => .error .wrongType
    | "__doc__", v => .ok { d with doc := v }
    | "__module__", v => .ok { d with home := v }
    | "__defaults__", .null => .ok { d with parameters := setDefaults d.parameters [] }
    | "__defaults__", .tuple _ vs =>
      .ok { d with parameters := (setDefaults d.parameters.reverse vs.reverse).reverse }
    | "__defaults__", _ => .error .wrongType
    | "__kwdefaults__", .null =>
      .ok { d with parameters := d.parameters.map (setKeywordDefault []) }
    | "__kwdefaults__", .dict _ es =>
      .ok { d with parameters := d.parameters.map (setKeywordDefault es) }
    | "__kwdefaults__", _ => .error .wrongType
    | "__annotations__", .null => .ok { d with annotations := .dict .fresh [] }
    | "__annotations__", .dict l es => .ok { d with annotations := .dict l es }
    | "__annotations__", _ => .error .wrongType
    | "__dict__", .dict _ es =>
      .ok { d with attributes := es.filterMap fun (k, w) => k.text?.map (·, w) }
    | "__dict__", _ => .error .wrongType
    | name, v => .ok { d with attributes := Fields.set d.attributes name v }

/-- A function with an attribute. -/
def Function.assign (f : Function) (name : String) (v : Value) : Except Fault Function :=
  match f with
  | .defined id d => (d.assign name v).map (.defined id)
  | .applied id inner fields =>
    if ["func", "args", "keywords"].contains name then .error .noAttribute
    else .ok (.applied id inner (Fields.set fields name v))
  | .builtin _ => .error .noAttribute
  | .predicate n body fields => .ok (.predicate n body (Fields.set fields name v))
  | .checked .. => .error .immutable
  | .generic id fields =>
    if name = "factory" then .error .noAttribute else .ok (.generic id (Fields.set fields name v))
  | .factory id n named result fields =>
    .ok (.factory id n named result (Fields.set fields name v))

/-- A value with an attribute. The coordinates of a point take any value; its other attributes and
those of settings are for private use. -/
def Value.assign (v : Value) (name : String) (new : Value) : Except Fault Value :=
  match v with
  | .schema (.bare l fields) => .ok (.schema (.bare l (Fields.set fields name new)))
  | .schema _ => .error (.frozenField name)
  | .contract _ => .error (.frozenField name)
  | .function f => (f.assign name new).map .function
  | .settings l m s fields =>
    if isPrivate name then .ok (.settings l m s (Fields.set fields name new))
    else .error (.unfit [frozenIssue name new])
  | .record l fields => .ok (.record l (Fields.set fields name new))
  | .token n fields => .ok (.token n (Fields.set fields name new))
  | .point l x y fields =>
    if name = "x" then .ok (.point l new y fields)
    else if name = "y" then .ok (.point l x new fields)
    else if isPrivate name then .ok (.point l x y (Fields.set fields name new))
    else .error (.wrongValue ("\"Point\" object has no field \"" ++ name ++ "\""))
  | .type .point => .ok v
  | .type .any => .ok v
  | .type .callable => .ok v
  | .type _ => .error .wrongType
  | _ => .error .noAttribute

/-- The visitor that puts one value in the place of an object. -/
def Visitor.replacing (old new : Value) : Visitor Id where
  label := id
  value v := if v.sameObject old then new else v

/-- A signature with its defaults changed. -/
def changeDefaults (f : Value → Value) (sig : Signature) : Signature :=
  List.map (fun (p : Parameter Value) => { p with default := p.default.map f }) sig

mutual

/-- A rule with its values changed. -/
def Rule.map (f : Value → Value) : Rule → Rule
  | .optional r => .optional (r.map f)
  | .list r lo hi => .list (r.map f) lo hi
  | .set r => .set (r.map f)
  | .frozenset r => .frozenset (r.map f)
  | .variadic r => .variadic (r.map f)
  | .fixed rs => .fixed (mapRules f rs)
  | .dict k v => .dict (k.map f) (v.map f)
  | .limited r ls => .limited (r.map f) ls
  | .after r p m => .after (r.map f) (f p) (f m)
  | .call sig g => .call (changeDefaults f sig) (f g)
  | r => r

/-- The rules of a list with their values changed. -/
def mapRules (f : Value → Value) : List Rule → List Rule
  | [] => []
  | r :: rs => r.map f :: mapRules f rs

end

/-- The session with one value in the place of an object wherever it is held. -/
def Session.replace (s : Session) (old new : Value) : Session :=
  let vis := Visitor.replacing old new
  let change (v : Value) : Value := (v.traverse vis).run
  { s with
    refs := s.refs.map fun (n, v) => (n, change v)
    predicates := s.predicates.map fun (n, v) => (n, change v)
    tokens := s.tokens.map fun (n, v) => (n, change v)
    active := s.active.map change
    adapters := s.adapters.map fun (t, a) =>
      ((t.traverse vis).run, { a with rule := a.rule.map change }) }

/-- Give an object an attribute. An opaque object is noted with its attributes, under its name. -/
def assign (v : Value) (name : String) (new : Value) : Run Unit := do
  let changed ← Run.lift (v.assign name new)
  modify fun s => s.replace v changed
  match changed with
  | .token n _ => modify fun s => { s with tokens := (n, changed) :: s.tokens.filter (·.1 != n) }
  | _ => pure ()

end CallContract
