import CallContract.Mode
import CallContract.Number.Double

/-!
# Terms

The language in which values, schemas, functions and contracts are written down. A term is only
text: it becomes a value when it is built in a session, which gives the names in it their
meaning. Function bodies are expressions (`Expr`); they are kept as they are written and run when
the function is called.
-/

namespace CallContract

/-- The basic types that an annotation can name. -/
inductive BaseType where
  | int
  | float
  | text
  | bool
  | bytes
  | any
  | object
  | null
  | list
  | dict
  | tuple
  | set
  | frozenset
  | callable
  | point
  deriving DecidableEq, Repr, Inhabited

/-- The ways to build an annotation from others. A union has the types between which a value may
choose, a literal the only values that will do; `other` annotations and notes that the engine knows
go by their names. A `validator` is what the engine makes of an annotation by which it checks
values in a way of its own, strictly or not. -/
inductive Form where
  | list
  | set
  | frozenset
  | optional
  | dict
  | variadic
  | fixed
  | marked
  | reference
  | union
  | literal
  | other (name : String)
  | validator (strict : Bool)
  deriving DecidableEq, Repr, Inhabited

/-- The functions that exist from the start, the basic types apart. -/
inductive Builtin where
  | len
  | abs
  | max
  | sum
  deriving DecidableEq, Repr, Inhabited

/-- How an argument can reach a parameter. -/
inductive ParameterKind where
  | positional
  | standard
  | variadic
  | keyword
  | keywords
  deriving DecidableEq, Repr, Inhabited

/-- A parameter of a function, with the default that it has if it may be left out. -/
structure Parameter (α : Type) where
  name : String
  kind : ParameterKind
  default : Option α
  deriving Repr, Inhabited

/-- What sort of thing a definition makes: a plain function, an object that can be called, a
partial application of a plain function, or a function whose calls give a pending result. -/
inductive DefinitionKind where
  | function
  | object
  | partialApplication
  | pending
  deriving DecidableEq, Repr, Inhabited

/-- The kinds of errors that an expression can raise on purpose. -/
inductive Alarm where
  | value
  | type
  | key
  | assertion
  | runtime
  | boom
  | definition
  deriving DecidableEq, Repr, Inhabited

/-- The ways to make a schema: by the checking function, by the method of a schema, or by the
unchecked constructor. -/
inductive Route where
  | direct
  | method
  | constructor
  deriving DecidableEq, Repr, Inhabited

/-- Operators with two operands. -/
inductive Operator where
  | add
  | mul
  | mod
  | lt
  | eq
  deriving DecidableEq, Repr, Inhabited

mutual

/-- A value as it is written. -/
inductive Term where
  | null
  | bool (b : Bool)
  | int (i : Int)
  | float (d : Double)
  | text (s : String)
  | bytes (bs : List UInt8)
  | list (items : List Term)
  | tuple (items : List Term)
  | set (items : List Term)
  | frozenset (items : List Term)
  | dict (entries : List (Term × Term))
  | mode (m : Mode)
  | boundary (b : Boundary)
  | point (x y : Term)
  | token (name : String)
  | type (t : BaseType)
  | record (fields : List (String × Term))
  | repeated (s : String) (times : Int)
  | range (first stop : Int)
  | nested (depth : Nat) (inner : Term)
  | power (base exponent shift : Int)
  | schema (s : SchemaTerm)
  | function (f : FunctionTerm)
  | ref (name : String)
  | item (name : String)
  | attribute (name : String)

/-- A schema, or an annotation that can be promoted to one. -/
inductive SchemaTerm where
  | type (t : BaseType)
  | null
  | list (items : List SchemaTerm)
  | tuple (items : List SchemaTerm)
  | raw (t : Term)
  | form (f : Form) (args : List SchemaTerm)
  | any
  | emptyTuple
  | bare
  | promoted (s : SchemaTerm)
  | primitive (s : SchemaTerm)
  | refined (route : Route) (base : SchemaTerm) (predicate : PredicateTerm)
      (message : Option Term)
  | tupleOf (items : List SchemaTerm)
  | tupleSchema (items : List SchemaTerm)
  | array (route : Route) (element : SchemaTerm) (length least most : Option Term)
  | function (route : Route) (args returns : Option SchemaTerm)

/-- A predicate: one known by its name, a new one under a name, or any value. -/
inductive PredicateTerm where
  | named (name : String)
  | defined (name : String) (body : Expr)
  | value (t : Term)

/-- A function. -/
inductive FunctionTerm where
  | define (kind : DefinitionKind) (name : String) (parameters : List (Parameter Term))
      (body : Expr) (doc : Option String) (attributes : List (String × Term))
  | builtin (b : Builtin)
  | type (t : BaseType)
  | raw (t : Term)

/-- The body of a function. -/
inductive Expr where
  | var (name : String)
  | const (t : Term)
  | function (f : FunctionTerm)
  | list (items : List Expr)
  | tuple (items : List Expr)
  | cond (test yes no : Expr)
  | raise (alarm : Alarm) (text : String)
  | check (schema : SchemaTerm) (value : Expr)
  | validate (schema : SchemaTerm) (value : Expr)
  | call (function : Expr) (args : List Expr)
  | map (items function : Expr)
  | fold (items function start : Expr)
  | binary (op : Operator) (left right : Expr)
  | not (e : Expr)
  | len (e : Expr)
  | str (e : Expr)

/-- A contract or a checked function. -/
inductive ContractTerm where
  | direct (args returns : Option SchemaTerm) (implementation : Option FunctionTerm)
      (mode : Option Term)
  | chain (start : Option ContractTerm) (steps : List BuildStep)
  | contract (args returns : Option SchemaTerm) (mode : Option Term)
  | checked (contract : ContractTerm) (implementation : FunctionTerm)
  | ref (name : String)
  | currentRecord

/-- One step of a chain of builder calls. -/
inductive BuildStep where
  | args (schemas : List SchemaTerm)
  | returns (schema : SchemaTerm)
  | mode (t : Term)
  | implement (f : FunctionTerm)

end

instance : Inhabited Term := ⟨.null⟩
instance : Inhabited SchemaTerm := ⟨.null⟩
instance : Inhabited Expr := ⟨.const .null⟩
instance : Inhabited FunctionTerm := ⟨.raw .null⟩
instance : Inhabited PredicateTerm := ⟨.value .null⟩
instance : Inhabited ContractTerm := ⟨.currentRecord⟩
instance : Inhabited BuildStep := ⟨.args []⟩

end CallContract
