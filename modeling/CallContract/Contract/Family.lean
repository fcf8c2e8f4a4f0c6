import CallContract.Contract.Assembly
import CallContract.Validation

/-!
# Families of functions

A family makes a function, or a contract still to be implemented, from a record of variables by
its factory. The record is given as one value or as keywords, which are the entries of a
dictionary, but not as both. A family checks nothing itself.
-/

namespace CallContract

namespace Family

/-- The source of the records about families. -/
def source : String := "contractfn.core.generic"

/-- The name of the parameter for the record. -/
def recordName : String := "vars"

/-- The name that no keyword can have. -/
def reservedName : String := "self"

/-- The field of a family that holds its factory. -/
def factoryField : String := "_factory"

/-- A family by its factory. It takes over what tells the factory. -/
def ofFactory (factory : Value) : Run Value := do
  if !factory.isCallable then
    throw (.definition (.factoryNotCallable factory.kindName))
  return .function (.generic (← Run.freshId)
    ((factoryField, factory) :: factory.identity ++ [(wrappedName, factory)]))

/-- The record and the other keywords of a call. -/
def arguments (args : List Value) (kw : Keywords) : Except Fault (Value × Keywords) :=
  if kw.has reservedName then .error .wrongType
  else match args, kw.lookup recordName with
    | [], none => .ok (.null, kw)
    | [], some v => .ok (v, kw.drop recordName)
    | [v], none => .ok (v, kw)
    | _, _ => .error .wrongType

/-- The record that a call gives to the factory. -/
def recordOf (record : Value) (kw : Keywords) : Except Fault Value :=
  match record, kw with
  | v, [] => .ok v
  | .null, kw => .ok (.dict .fresh (kw.map fun (n, v) => (.text n, v)))
  | _, _ => .error (.definition .recordAndKeywords)

/-- Make a member of a family. -/
def instantiate (apply : Caller) (fields : Fields) (args : List Value) (kw : Keywords) :
    Run Value := do
  let (record, kw) ← Run.lift (arguments args kw)
  let record ← Run.lift (recordOf record kw)
  let factory ← Run.require .noAttribute (fields.lookup factoryField)
  let name := (factory.attribute? nameAttribute).getD (.text "generic")
  Run.record source ("[GENERIC] Instantiating " ++ (← Run.lift name.tell))
  apply factory [record] []

/-- What a factory does with its record: it builds a term in which the record is the current
one. -/
def produce (result : ContractTerm) (args : List Value) (kw : Keywords) : Run Value :=
  match args, kw with
  | [record], [] => Run.withRecord record (result.build [])
  | _, _ => throw .wrongType

end Family

end CallContract
