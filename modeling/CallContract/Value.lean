import CallContract.Term
import CallContract.Number.Numeral

/-!
# Values, schemas, contracts and functions

The things that cross the boundary of a checked function are values. Schemas, contracts and
functions are values too, since they can be passed and stored, so all four are defined together.

A container, schema or contract carries a `Label`, which tells it apart from another one with
the same contents. What has just been made has the label `fresh`; it is numbered when it is given
a name. Two things are the same object exactly when they have the same label and that label is
not `fresh`. Functions are told apart by a number from the start, because they are compared by it.
The one number that does not equal itself, the result of a senseless operation on doubles, has a
label too: a container that holds it twice holds one object.

Settings that are loaded on first use have numbers of their own, so that loading them does not
change the number of any other object.

Some objects can be given attributes later. Such an object carries its attributes, so that all there
is to know about a value is in the value.
-/

namespace CallContract

/-- What tells an object apart from another one with the same contents. -/
inductive Label where
  | fresh
  | numbered (n : Nat)
  | part (n : Nat) (name : String)
  | loaded (n : Nat)
  deriving DecidableEq, Repr, Inhabited

mutual

/-- A value. -/
inductive Value where
  | null
  | bool (b : Bool)
  | int (i : Int)
  | float (d : Double)
  | nan (label : Label)
  | text (s : String)
  | bytes (bs : List UInt8)
  | list (label : Label) (items : List Value)
  | tuple (label : Label) (items : List Value)
  | set (label : Label) (items : List Value)
  | frozenset (label : Label) (items : List Value)
  | dict (label : Label) (entries : List (Value × Value))
  | mode (m : Mode)
  | boundary (b : Boundary)
  | point (label : Label) (x y : Value) (fields : List (String × Value))
  | token (name : String) (fields : List (String × Value))
  | record (label : Label) (fields : List (String × Value))
  | type (t : BaseType)
  | form (label : Label) (f : Form) (args : List Value)
  | schema (s : Schema)
  | contract (c : Contract)
  | function (f : Function)
  | settings (label : Label) (mode : Mode) (strict : Bool) (fields : List (String × Value))
  | pending (id : Nat) (name : String)
  | other (kind shown key : String)

/-- A schema. The parts of a schema that was made by an unchecked constructor may be any values
(`foreign`); `bare` is the common base of all schemas, which checks nothing and cannot be used. -/
inductive Schema where
  | bare (label : Label) (fields : List (String × Value))
  | primitive (label : Label) (type : Value)
  | any (label : Label)
  | refined (label : Label) (base : Schema) (predicate message : Value)
  | tuple (label : Label) (items : List Schema)
  | array (label : Label) (element : Schema) (length least most : Option Numeral)
  | function (label : Label) (args returns : Schema)
  | foreign (v : Value)

/-- The mode of a contract: not set, or a mode, or, in a contract made by the unchecked
constructor, any value. -/
inductive ModeChoice where
  | unset
  | known (m : Mode)
  | foreign (v : Value)

/-- What a function takes and returns, and which of the two is enforced. -/
structure Contract where
  label : Label
  args : Schema
  returns : Schema
  mode : ModeChoice

/-- A function that was defined by a term, or an object that is called like one. `name` is the name
in the term; `ownName` and `path` are the names that the function goes by, and `home` is where it
is at home; these and `doc` and `annotations` can be changed. `scope` holds the variables that it
closes over. -/
structure Definition where
  kind : DefinitionKind
  name : String
  ownName : String
  path : String
  parameters : List (Parameter Value)
  body : Expr
  scope : List (String × Value)
  doc : Value
  home : Value
  annotations : Value
  attributes : List (String × Value)

/-- What a function that wraps another one takes over from it when it is made: the name under which
it reports, the attributes that tell what it is, and the signature. -/
structure Face where
  name : Value
  taken : List (String × Value)
  signature : Option (List (Parameter Value))

/-- A function. An `applied` one is a partial application. A `checked` one gates its implementation
by a contract, in place of which the unchecked constructor takes any value. A `generic` one makes
functions from a record by its factory, which is one of its fields. -/
inductive Function where
  | defined (id : Nat) (d : Definition)
  | applied (id : Nat) (inner : Value) (fields : List (String × Value))
  | builtin (b : Builtin)
  | predicate (name : String) (body : Expr) (fields : List (String × Value))
  | checked (id : Nat) (contract implementation : Value) (face : Face)
  | generic (id : Nat) (fields : List (String × Value))
  | factory (id : Nat) (name : String) (named : Bool) (result : ContractTerm)
      (fields : List (String × Value))

end

/-- Attributes, or variables, with their names. -/
abbrev Fields := List (String × Value)

instance : Inhabited Value := ⟨.null⟩
instance : Inhabited Schema := ⟨.any .fresh⟩
instance : Inhabited ModeChoice := ⟨.unset⟩
instance : Inhabited Contract := ⟨⟨.fresh, default, default, .unset⟩⟩

/-- The label of the schema that accepts every value. -/
def Label.any : Label := .numbered 0

/-- The label of the empty tuple schema. -/
def Label.emptyTuple : Label := .numbered 1

/-- The label of the arguments that a function schema has by default. -/
def Label.defaultArgs : Label := .numbered 2

/-- The label of the result that a function schema has by default. -/
def Label.defaultReturns : Label := .numbered 3

/-- The label of the value that is no number, where a file names it. -/
def Label.notNumber : Label := .numbered 4

/-- The first number for a new label. -/
def Label.firstFree : Nat := 5

/-- The schema that accepts every value. -/
def Schema.anything : Schema := .any Label.any

/-- The schema of the tuple without items. -/
def Schema.emptyTuple : Schema := .tuple Label.emptyTuple []

namespace Value

/-- A value as a part of a schema. -/
def asPart : Value → Schema
  | .schema s => s
  | v => .foreign v

/-- A double as a value. -/
def ofDouble : Double → Value
  | .nan => .nan .fresh
  | d => .float d

/-- The numeral that a value is. -/
def numeral? : Value → Option Numeral
  | .bool b => some (.flag b)
  | .int i => some (.whole i)
  | .float d => some (.real d)
  | .nan _ => some (.real .nan)
  | _ => none

/-- A numeral as a value. -/
def ofNumeral : Numeral → Value
  | .flag b => .bool b
  | .whole i => .int i
  | .real d => ofDouble d

/-- The text that a value is; modes and boundaries are texts. -/
def text? : Value → Option String
  | .text s => some s
  | .mode m => some m.word
  | .boundary b => some b.word
  | _ => none

/-- Whether a value counts as true in a condition. -/
def isTruthy : Value → Bool
  | .null => false
  | .bool b => b
  | .int i => i ≠ 0
  | .float d => !d.isZero
  | .text s => s ≠ ""
  | .bytes bs => !bs.isEmpty
  | .list _ xs => !xs.isEmpty
  | .tuple _ xs => !xs.isEmpty
  | .set _ xs => !xs.isEmpty
  | .frozenset _ xs => !xs.isEmpty
  | .dict _ es => !es.isEmpty
  | _ => true

/-- Whether a value can be called. -/
def isCallable : Value → Bool
  | .type _ => true
  | .form .. => true
  | .function _ => true
  | _ => false

/-- Whether a value is data without an origin, which cannot be narrowed in place of a type. -/
def isPlainData : Value → Bool
  | .bool _ => true
  | .int _ => true
  | .float _ => true
  | .nan _ => true
  | .bytes _ => true
  | .list .. => true
  | .set .. => true
  | .frozenset .. => true
  | .dict .. => true
  | .record .. => true
  | .pending .. => true
  | .other .. => true
  | _ => false

/-- Whether the engine checks values by an annotation in a way of its own: a choice of types or
values, another annotation that it knows, or one with a mark that is more than plain data. -/
def isOwn : Value → Bool
  | .form _ .union _ => true
  | .form _ .literal _ => true
  | .form _ (.other _) _ => true
  | .form _ .marked (_ :: marks) => !marks.all isPlainData
  | _ => false

/-- The validator that the engine makes of an annotation. -/
def validator (type : Value) (strict : Bool) : Value := .form .fresh (.validator strict) [type]

/-- The items of a list, tuple, set or frozenset. -/
def items? : Value → Option (List Value)
  | .list _ xs => some xs
  | .tuple _ xs => some xs
  | .set _ xs => some xs
  | .frozenset _ xs => some xs
  | _ => none

mutual

/-- An annotation without the labels of the forms in it. -/
def unnamed : Value → Value
  | .form _ f xs => .form .fresh f (unnamedAll xs)
  | v => v

/-- The annotations of a list without labels. -/
def unnamedAll : List Value → List Value
  | [] => []
  | x :: xs => x.unnamed :: unnamedAll xs

end

@[simp] theorem unnamed_form (l : Label) (f : Form) (xs : List Value) :
    (form l f xs).unnamed = .form .fresh f (unnamedAll xs) := by rw [unnamed]

mutual

@[simp] theorem unnamed_unnamed : ∀ v : Value, v.unnamed.unnamed = v.unnamed
  | .form _ _ xs => by rw [unnamed_form, unnamed_form, unnamedAll_unnamedAll xs]
  | .null | .bool _ | .int _ | .float _ | .nan _ | .text _ | .bytes _ | .mode _ | .boundary _
  | .list .. | .tuple .. | .set .. | .frozenset .. | .dict .. | .point .. | .token .. | .record ..
  | .type _ | .schema _ | .contract _ | .function _ | .settings .. | .pending .. | .other .. => rfl

@[simp] theorem unnamedAll_unnamedAll : ∀ xs : List Value,
    unnamedAll (unnamedAll xs) = unnamedAll xs
  | [] => rfl
  | x :: xs => by rw [unnamedAll, unnamedAll, unnamed_unnamed x, unnamedAll_unnamedAll xs]

end

@[simp] theorem isPlainData_unnamed (v : Value) : v.unnamed.isPlainData = v.isPlainData := by
  cases v <;> rfl

@[simp] theorem all_isPlainData_unnamedAll (xs : List Value) :
    (unnamedAll xs).all isPlainData = xs.all isPlainData := by
  induction xs with
  | nil => rfl
  | cons x xs ih => rw [unnamedAll, List.all_cons, List.all_cons, isPlainData_unnamed, ih]

/-- A field with its name. -/
def fieldPair (name : String) (v : Value) : Value := .tuple .fresh [.text name, v]

/-- The fields of a point or of settings, each with its name. -/
def fieldPairs? : Value → Option (List Value)
  | .point _ x y _ => some [fieldPair "x" x, fieldPair "y" y]
  | .settings _ m s _ => some [fieldPair "default_mode" (.mode m), fieldPair "strict" (.bool s)]
  | _ => none

/-- What a value holds: the items of a container, or the fields of a point or of settings. -/
def elements? (v : Value) : Option (List Value) := v.items?.or v.fieldPairs?

@[simp] theorem asPart_schema (s : Schema) : asPart (.schema s) = s := rfl

@[simp] theorem numeral?_ofNumeral (n : Numeral) : numeral? (ofNumeral n) = some n := by
  cases n with
  | real d => cases d <;> rfl
  | _ => rfl

end Value

/-- A schema, or the value in its place, as a value. -/
def Schema.toValue : Schema → Value
  | .foreign v => v
  | s => .schema s

/-- The label of a schema. -/
def Schema.label : Schema → Label
  | .bare l _ => l
  | .primitive l _ => l
  | .any l => l
  | .refined l _ _ _ => l
  | .tuple l _ => l
  | .array l _ _ _ _ => l
  | .function l _ _ => l
  | .foreign _ => .fresh

/-- The word for a basic type in messages about the type of a value. -/
def BaseType.word : BaseType → String
  | .int => "int"
  | .float => "float"
  | .text => "str"
  | .bool => "bool"
  | .bytes => "bytes"
  | .any => "Any"
  | .object => "object"
  | .null => "NoneType"
  | .list => "list"
  | .dict => "dict"
  | .tuple => "tuple"
  | .set => "set"
  | .frozenset => "frozenset"
  | .callable => "Callable"
  | .point => "Point"

/-- The word for a function that exists from the start. -/
def Builtin.word : Builtin → String
  | .len => "len"
  | .abs => "abs"
  | .max => "max"
  | .sum => "sum"

/-- The word for a way to build an annotation. -/
def Form.word : Form → String
  | .list => "list"
  | .set => "set"
  | .frozenset => "frozenset"
  | .optional => "Optional"
  | .dict => "dict"
  | .variadic => "tuple"
  | .fixed => "tuple"
  | .marked => "Annotated"
  | .reference => "ForwardRef"
  | .union => "Union"
  | .literal => "Literal"
  | .other n => n
  | .validator _ => "SchemaValidator"

/-- The word for the mode of a contract, if one is set. -/
def ModeChoice.word : ModeChoice → String
  | .known m => m.word
  | _ => ""

/-- The word for a sort of schema. -/
def Schema.kindName : Schema → String
  | .bare .. => "Schema"
  | .primitive .. => "Primitive"
  | .any _ => "AnySchema"
  | .refined .. => "Refined"
  | .tuple .. => "TupleSchema"
  | .array .. => "ArraySchema"
  | .function .. => "FunctionSchema"
  | .foreign _ => "object"

/-- The word for the sort of things that a function is. -/
def Function.kindName : Function → String
  | .defined _ d => if d.kind = .object then d.name else "function"
  | .applied .. => "partial"
  | .builtin _ => "builtin_function_or_method"
  | .predicate .. => "Predicate"
  | .checked .. => "CheckedFunction"
  | .generic .. => "GenericFn"
  | .factory _ _ named _ _ => if named then "function" else "Factory"

/-- The word for the type of a value. -/
def Value.kindName : Value → String
  | .null => "NoneType"
  | .bool _ => "bool"
  | .int _ => "int"
  | .float _ => "float"
  | .nan _ => "float"
  | .text _ => "str"
  | .bytes _ => "bytes"
  | .list .. => "list"
  | .tuple .. => "tuple"
  | .set .. => "set"
  | .frozenset .. => "frozenset"
  | .dict .. => "dict"
  | .mode _ => "ValidationMode"
  | .boundary _ => "Boundary"
  | .point .. => "Point"
  | .token .. => "Opaque"
  | .record .. => "SimpleNamespace"
  | .type .any => "_AnyMeta"
  | .type .callable => "_CallableType"
  | .type .point => "ModelMetaclass"
  | .type _ => "type"
  | .form _ .optional _ => "_UnionGenericAlias"
  | .form _ .marked _ => "_AnnotatedAlias"
  | .form _ .reference _ => "ForwardRef"
  | .form _ .union _ => "_UnionGenericAlias"
  | .form _ .literal _ => "_LiteralGenericAlias"
  | .form _ (.other n) _ => n
  | .form _ (.validator _) _ => "SchemaValidator"
  | .form .. => "GenericAlias"
  | .schema s => s.kindName
  | .contract _ => "FunctionContract"
  | .function f => f.kindName
  | .settings .. => "ContractConfig"
  | .pending .. => "coroutine"
  | .other kind _ _ => kind

/-- Where definitions are at home. -/
def homeName : String := "driver"

/-- Where all that exists from the start is at home. -/
def coreName : String := "builtins"

/-- Fields as a dictionary. -/
def Value.ofFields (fields : List (String × Value)) : Value :=
  .dict .fresh (fields.map fun (n, v) => (.text n, v))

/-- The name of the attribute that holds the name of a function. -/
def nameAttribute : String := "__name__"

/-- The name that a function has of its own. A function that wraps another one has that which it
took over. -/
def Function.ownName? : Function → Option Value
  | .defined _ d =>
    if d.kind = .object then d.attributes.lookup nameAttribute else some (.text d.ownName)
  | .applied _ _ fields => fields.lookup nameAttribute
  | .builtin b => some (.text b.word)
  | .predicate _ _ fields => fields.lookup nameAttribute
  | .checked _ _ _ face => face.taken.lookup nameAttribute
  | .generic _ fields => fields.lookup nameAttribute
  | .factory _ n named _ fields =>
    (fields.lookup nameAttribute).or (if named then some (.text n) else none)

/-- The name that a value has of its own. Functions and types have one; an object has one if it is
among its attributes. -/
def Value.ownName? : Value → Option Value
  | .type t => some (.text t.word)
  | .form _ .reference _ => none
  | .form _ f _ => some (.text f.word)
  | .function f => f.ownName?
  | .record _ fields => fields.lookup nameAttribute
  | .token _ fields => fields.lookup nameAttribute
  | .schema (.bare _ fields) => fields.lookup nameAttribute
  | _ => none

/-- The name under which a checked function reports: the own name of the implementation, or
else the word for its type. -/
def Value.calledName (v : Value) : Value := v.ownName?.getD (.text v.kindName)

end CallContract
