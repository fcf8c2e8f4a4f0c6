import CallContract.Rule.Application
import CallContract.Schema.Promotion
import CallContract.Schema.Reference
import CallContract.Term.Predicates
import CallContract.Value.Assignment
import CallContract.Value.Operators

/-!
# Building values from terms

A term is built in a session, which knows the stored values, the predicates and the record of the
family of functions being made, and in a scope, which holds the variables that a function closes
over. The parts of a term are built from left to right; the first fault ends it.
-/

namespace CallContract

/-- The value stored under a name. -/
def Run.stored (name : String) : Run Value := do
  Run.require (.noRef name) ((← get).refs.lookup name)

/-- The variables that a function closes over. -/
abbrev Scope := Fields

/-- An item of the current record. -/
def itemOf (record : Value) (name : String) : Except Fault Value :=
  match record with
  | .dict _ es =>
    match lookupEntry (.text name) es with
    | some v => .ok v
    | none => .error (.noKey (quoted name))
  | _ => .error .wrongType

/-- A field of the current record. -/
def fieldOfRecord (record : Value) (name : String) : Except Fault Value :=
  match record.attribute? name with
  | some v => .ok v
  | none => .error .noAttribute

/-- The list of the whole numbers from `first` up to but not including `stop`. -/
def numbersBetween (first stop : Int) : List Value :=
  (List.range (stop - first).toNat).map fun n => .int (first + Int.ofNat n)

/-- A power of a whole number: one with a negative exponent is a double. -/
def powerOf (base exponent : Int) : Except Fault Value :=
  if 0 ≤ exponent then .ok (.int (Int.pow base exponent.toNat))
  else if base = 0 then .error .divisionByZero
  else
    let negative := base < 0 ∧ exponent.emod 2 = 1
    let most := if base.natAbs = 1 then 1 else exponent.natAbs
    if 1100 < most then .ok (.float (.zero negative))
    else .ok (.float (.ofRatio negative 1 (Nat.pow base.natAbs most)))

/-- A value within so many lists. -/
def nestedList (v : Value) : Nat → Value
  | 0 => v
  | n + 1 => .list .fresh [nestedList v n]

/-- A point with the given coordinates, which have to be whole numbers. -/
def pointAt (x y : Value) : Except Fault Value :=
  match applyPoint false (.dict .fresh [(.text "x", x), (.text "y", y)]) with
  | .ok p => .ok p
  | .error issues => .error (.unfit issues)

/-- Refuse a value that can neither be a member of a set nor a key. -/
def requireHashable (v : Value) : Run Unit := if v.isHashable then pure () else throw .wrongType

/-- A text in place of a type as a reference to the type that it names. -/
def asReference (v : Value) : Except Fault Value :=
  match v.text? with
  | some s => (TypeText.check s).map fun _ => .form .fresh .reference [v]
  | none => .ok v

/-- An annotation that also allows nothing, made from one that may allow it already. -/
def optionalForm (v : Value) : Except Fault Value :=
  match v with
  | .null => .ok (.type .null)
  | .type .null => .ok (.type .null)
  | .tuple .. => .error .wrongType
  | .form l .optional xs => .ok (.form l .optional xs)
  | v => (asReference v).map fun v => .form .fresh .optional [v]

/-- The mark of an annotation that cannot be a key. -/
def emptyMark : Value := .list .fresh []

/-- An annotation with one more mark. -/
def markedForm (v : Value) : Except Fault Value :=
  match v with
  | .null => .ok (.form .fresh .marked [.type .null, emptyMark])
  | .tuple .. => .error .wrongType
  | .form _ .marked xs => .ok (.form .fresh .marked (xs ++ [emptyMark]))
  | v => do
    let v ← asReference v
    if v.isPlainData then throw .noAttribute else return .form .fresh .marked [v, emptyMark]

/-- An annotation made from others. A tuple in place of the items of a container stands for what
is in it. -/
def makeForm (f : Form) (args : List Value) : Except Fault Value :=
  match f, args with
  | .optional, [v] => optionalForm v
  | .marked, [v] => markedForm v
  | .list, [.tuple _ xs] => .ok (.form .fresh .list xs)
  | .set, [.tuple _ xs] => .ok (.form .fresh .set xs)
  | .frozenset, [.tuple _ xs] => .ok (.form .fresh .frozenset xs)
  | f, args => .ok (.form .fresh f args)

/-- A definition with its attributes set. -/
def Definition.withAttributes (d : Definition) (attributes : Fields) : Except Fault Definition :=
  attributes.foldlM (fun d (n, v) => d.assign n v) d

/-- A refined schema by one of the ways to make it. -/
def makeRefined (route : Route) (base predicate : Value) (message : Option Value) :
    Except Fault Schema :=
  let message := message.getD Schema.defaultMessage
  match route, base with
  | .direct, base => Schema.refine base predicate message
  | .method, .schema s => Schema.refine (.schema s) predicate message
  | .method, _ => .error .noAttribute
  | .constructor, base => .ok (.refined .fresh base.asPart predicate message)

/-- An array schema by one of the ways to make it. -/
def makeArray (route : Route) (element : Value) (length least most : Option Value) :
    Except Fault Schema :=
  let length := length.getD .null
  let least := least.getD .null
  let most := most.getD .null
  match route, element with
  | .direct, element => Schema.arrayOf element length least most
  | .method, .schema s => Schema.arrayOf (.schema s) length least most
  | .method, _ => .error .noAttribute
  | .constructor, element => Schema.array? element.asPart length least most

/-- A function schema by one of the ways to make it. -/
def makeFunction (route : Route) (args returns : Option Value) : Schema :=
  match route with
  | .constructor => Schema.function? args returns
  | _ => Schema.functionOf (args.getD (.tuple .fresh [])) (returns.getD (.schema .anything))

mutual

/-- The value that a term stands for. -/
def Term.build (scope : Scope) : Term → Run Value
  | .null => return .null
  | .bool b => return .bool b
  | .int i => return .int i
  | .float d => return .ofDouble d
  | .text s => return .text s
  | .bytes bs => return .bytes bs
  | .list xs => return .list .fresh (← buildAll scope xs)
  | .tuple xs => return .tuple .fresh (← buildAll scope xs)
  | .set xs => return .set .fresh (distinct (← buildMembers scope xs))
  | .frozenset xs => return .frozenset .fresh (distinct (← buildMembers scope xs))
  | .dict es => do
    let entries ← buildEntries scope es
    return .dict .fresh (entries.foldl (fun acc (k, v) => putEntry acc k v) [])
  | .mode m => return .mode m
  | .boundary b => return .boundary b
  | .point x y => do
    let x ← x.build scope
    let y ← y.build scope
    Run.lift (pointAt x y)
  | .token n => return ((← get).tokens.lookup n).getD (.token n [])
  | .type t => return .type t
  | .record fs => do
    let fields ← buildFields scope fs
    return .record .fresh (fields.foldl (fun acc (n, v) => Fields.set acc n v) [])
  | .repeated s n => do
    let count ← Run.lift (Value.repetitions s.length n .overflow)
    return .text (Value.repeatText s count)
  | .range a b => return .list .fresh (numbersBetween a b)
  | .nested n t => return nestedList (← t.build scope) n
  | .power a b c => do Run.lift ((← Run.lift (powerOf a b)).add (.int c))
  | .schema s => s.build scope
  | .function f => f.build scope
  | .ref n => Run.stored n
  | .item n => do Run.lift (itemOf (← Run.currentRecord) n)
  | .attribute n => do Run.lift (fieldOfRecord (← Run.currentRecord) n)

/-- The values that the terms of a list stand for. -/
def buildAll (scope : Scope) : List Term → Run (List Value)
  | [] => return []
  | t :: ts => return (← t.build scope) :: (← buildAll scope ts)

/-- The values that the terms of a list stand for, each of which has to be hashable. -/
def buildMembers (scope : Scope) : List Term → Run (List Value)
  | [] => return []
  | t :: ts => do
    let v ← t.build scope
    requireHashable v
    return v :: (← buildMembers scope ts)

/-- The entries that pairs of terms stand for, each with a hashable key. -/
def buildEntries (scope : Scope) : List (Term × Term) → Run (List (Value × Value))
  | [] => return []
  | (k, t) :: es => do
    let key ← k.build scope
    let v ← t.build scope
    requireHashable key
    return (key, v) :: (← buildEntries scope es)

/-- The fields that named terms stand for. -/
def buildFields (scope : Scope) : List (String × Term) → Run (List (String × Value))
  | [] => return []
  | (n, t) :: fs => return (n, ← t.build scope) :: (← buildFields scope fs)

/-- The value that an optional term stands for. -/
def buildOptional (scope : Scope) : Option Term → Run (Option Value)
  | none => return none
  | some t => return some (← t.build scope)

/-- The parameters with their defaults built. -/
def buildParameters (scope : Scope) : List (Parameter Term) → Run (List (Parameter Value))
  | [] => return []
  | ⟨n, k, d⟩ :: ps => return ⟨n, k, ← buildOptional scope d⟩ :: (← buildParameters scope ps)

/-- The schema or annotation that a term stands for. -/
def SchemaTerm.build (scope : Scope) : SchemaTerm → Run Value
  | .type t => return .type t
  | .null => return .null
  | .list ss => return .list .fresh (← buildSchemas scope ss)
  | .tuple ss => return .tuple .fresh (← buildSchemas scope ss)
  | .raw t => t.build scope
  | .form f ss => do
    let args ← buildSchemas scope ss
    Run.lift (makeForm f args)
  | .any => return .schema .anything
  | .emptyTuple => return .schema .emptyTuple
  | .bare => return .schema (.bare (.numbered (← Run.freshId)) [])
  | .promoted s => return .schema (promote (← s.build scope))
  | .primitive s => return .schema (.primitive .fresh (← s.build scope))
  | .refined route base predicate message => do
    let base ← base.build scope
    let predicate ← predicate.build scope
    let message ← buildOptional scope message
    return .schema (← Run.lift (makeRefined route base predicate message))
  | .tupleOf ss => return .schema (Schema.tupleOf (← buildSchemas scope ss))
  | .tupleSchema ss => return .schema (.tuple .fresh ((← buildSchemas scope ss).map Value.asPart))
  | .array route element length least most => do
    let element ← element.build scope
    let length ← buildOptional scope length
    let least ← buildOptional scope least
    let most ← buildOptional scope most
    return .schema (← Run.lift (makeArray route element length least most))
  | .function route args returns => do
    let args ← buildOptionalSchema scope args
    let returns ← buildOptionalSchema scope returns
    return .schema (makeFunction route args returns)

/-- The schemas that the terms of a list stand for. -/
def buildSchemas (scope : Scope) : List SchemaTerm → Run (List Value)
  | [] => return []
  | s :: ss => return (← s.build scope) :: (← buildSchemas scope ss)

/-- The schema that an optional term stands for. -/
def buildOptionalSchema (scope : Scope) : Option SchemaTerm → Run (Option Value)
  | none => return none
  | some s => return some (← s.build scope)

/-- The predicate that a term stands for. -/
def PredicateTerm.build (scope : Scope) : PredicateTerm → Run Value
  | .named n => Predicate.named n
  | .defined n body => Predicate.define n body
  | .value t => t.build scope

/-- The function that a term stands for. A definition closes over the scope. Of a partial
application, the function inside has the attributes. -/
def FunctionTerm.build (scope : Scope) : FunctionTerm → Run Value
  | .define kind name ps body doc attributes => do
    let parameters ← buildParameters scope ps
    let attributes ← buildFields scope attributes
    let plain : Definition := {
      kind := if kind = .partialApplication then .function else kind
      name, ownName := name, path := name, parameters, body, scope
      doc := (doc.map Value.text).getD .null, home := .text homeName
      annotations := .dict .fresh [], attributes := [] }
    let d ← Run.lift (plain.withAttributes (if kind = .object then [] else attributes))
    let inner : Value := .function (.defined (← Run.freshId) d)
    if kind = .partialApplication then return .function (.applied (← Run.freshId) inner [])
    else return inner
  | .builtin b => return .function (.builtin b)
  | .type t => return .type t
  | .raw t => t.build scope

end

end CallContract
