import CallContract.Signature.Lookup

/-!
# Attributes of values

What can be asked of a value by a name: the fields of schemas, contracts, settings and points, the
parts of functions, and the attributes that an object was given.
-/

namespace CallContract

/-- The label of a part of an object. -/
def Label.partOf (l : Label) (name : String) : Label :=
  match l with
  | .numbered n => .part n name
  | _ => .fresh

/-- An optional bound as a value. -/
def ofBound : Option Numeral → Value
  | some n => .ofNumeral n
  | none => .null

/-- The mode of a contract as a value. -/
def ModeChoice.toValue : ModeChoice → Value
  | .unset => .null
  | .known m => .mode m
  | .foreign v => v

/-- A field of a schema. -/
def Schema.field? (s : Schema) (name : String) : Option Value :=
  match s, name with
  | .primitive _ t, "type_" => some t
  | .refined _ b _ _, "base" => some b.toValue
  | .refined _ _ p _, "predicate" => some p
  | .refined _ _ _ m, "message" => some m
  | .tuple l items, "items" => some (.tuple (l.partOf "items") (items.map Schema.toValue))
  | .array _ e _ _ _, "element" => some e.toValue
  | .array _ _ n _ _, "length" => some (ofBound n)
  | .array _ _ _ lo _, "min_length" => some (ofBound lo)
  | .array _ _ _ _ hi, "max_length" => some (ofBound hi)
  | .function _ a _, "args" => some a.toValue
  | .function _ _ r, "returns" => some r.toValue
  | .bare _ fields, name => fields.lookup name
  | _, _ => none

/-- A field of a contract. -/
def Contract.field? (c : Contract) (name : String) : Option Value :=
  match name with
  | "args_schema" => some c.args.toValue
  | "return_schema" => some c.returns.toValue
  | "mode" => some c.mode.toValue
  | _ => none

/-- The parameters with a default that can be given by position, as a tuple of the defaults. -/
def Definition.defaults (d : Definition) : Value :=
  let given := (d.parameters.filter fun p => p.kind = .positional ∨ p.kind = .standard).filterMap
    (·.default)
  if given.isEmpty then .null else .tuple .fresh given

/-- The defaults of the parameters that have to be given by name. -/
def Definition.keywordDefaults (d : Definition) : Value :=
  let given := (d.parameters.filter (·.kind = .keyword)).filterMap fun p =>
    p.default.map fun v => (Value.text p.name, v)
  if given.isEmpty then .null else .dict .fresh given

/-- What a definition has under a name. An object has its attributes only. -/
def Definition.part? (d : Definition) (name : String) : Option Value :=
  if d.kind = .object then
    (d.attributes.lookup name).or <| match name with
      | "__doc__" => some .null
      | "__module__" => some (.text homeName)
      | "__dict__" => some (.ofFields d.attributes)
      | _ => none
  else match name with
    | "__name__" => some (.text d.ownName)
    | "__qualname__" => some (.text d.path)
    | "__doc__" => some d.doc
    | "__module__" => some d.home
    | "__annotations__" => some d.annotations
    | "__dict__" => some (.ofFields d.attributes)
    | "__defaults__" => some d.defaults
    | "__kwdefaults__" => some d.keywordDefaults
    | name => d.attributes.lookup name

/-- What a factory has under a name. -/
def factoryPart? (name : String) (named : Bool) (fields : Fields) (key : String) : Option Value :=
  (fields.lookup key).or <| match key with
    | "__name__" => if named then some (.text name) else none
    | "__qualname__" => if named then some (.text name) else none
    | "__doc__" => some .null
    | "__module__" => some (.text homeName)
    | "__annotations__" => if named then some (.dict .fresh []) else none
    | _ => none

/-- What the functions that exist from the start say about themselves. -/
def Builtin.doc : Builtin → String
  | .len => "Return the number of items in a container."
  | .abs => "Return the absolute value of the argument."
  | .max =>
    "max(iterable, *[, default=obj, key=func]) -> value\n" ++
    "max(arg1, arg2, *args, *[, key=func]) -> value\n\n" ++
    "With a single iterable argument, return its biggest item. The\n" ++
    "default keyword-only argument specifies an object to return if\n" ++
    "the provided iterable is empty.\n" ++
    "With two or more arguments, return the largest argument."
  | .sum =>
    "Return the sum of a 'start' value (default: 0) plus an iterable of numbers\n\n" ++
    "When the iterable is empty, return the start value.\n" ++
    "This function is intended specifically for use with numeric values and may\n" ++
    "reject non-numeric types."

/-- What a function that exists from the start has under a name. -/
def Builtin.part? (b : Builtin) (name : String) : Option Value :=
  match name with
  | "__name__" => some (.text b.word)
  | "__qualname__" => some (.text b.word)
  | "__doc__" => some (.text b.doc)
  | "__module__" => some (.text coreName)
  | _ => none

/-- What partial applications say about themselves. -/
def partialDoc : String :=
  "partial(func, *args, **keywords) - new function with partial application\n" ++
  "    of the given arguments and keywords.\n"

/-- What a partial application has under a name, besides its parts. -/
def partialPart? (fields : Fields) (name : String) : Option Value :=
  (fields.lookup name).or <| match name with
    | "__doc__" => some (.text partialDoc)
    | "__module__" => some (.text "functools")
    | "__dict__" => some (.ofFields fields)
    | _ => none

/-- Where a basic type is at home. -/
def BaseType.home : BaseType → String
  | .point => homeName
  | .any => "typing"
  | .callable => "typing"
  | _ => coreName

mutual

/-- What a value has under a name. -/
def Value.attribute? (v : Value) (name : String) : Option Value :=
  match v, name with
  | .schema s, name => s.field? name
  | .contract c, name => c.field? name
  | .settings _ m _ _, "default_mode" => some (.mode m)
  | .settings _ _ s _, "strict" => some (.bool s)
  | .settings _ _ _ fields, name => fields.lookup name
  | .point _ x _ _, "x" => some x
  | .point _ _ y _, "y" => some y
  | .point _ _ _ fields, name => fields.lookup name
  | .record _ fields, name => fields.lookup name
  | .token _ fields, name => fields.lookup name
  | .function f, name => f.part? name
  | .mode m, "value" => some (.text m.word)
  | .mode m, "_value_" => some (.text m.word)
  | .mode m, "name" => some (.text m.declared)
  | .mode m, "_name_" => some (.text m.declared)
  | .mode m, "validates_args" => some (.bool (m.enforces .args))
  | .mode m, "validates_return" => some (.bool (m.enforces .result))
  | .boundary b, "value" => some (.text b.word)
  | .boundary b, "_value_" => some (.text b.word)
  | .boundary b, "name" => some (.text b.declared)
  | .boundary b, "_name_" => some (.text b.declared)
  | .type t, "__name__" => some (.text t.word)
  | .type t, "__qualname__" => some (.text t.word)
  | .type t, "__module__" => some (.text t.home)
  | .form l f args, "__name__" => (Value.form l f args).ownName?
  | .form l f args, "__qualname__" => (Value.form l f args).ownName?
  | _, _ => none

/-- A part of a function. -/
def Function.part? (f : Function) (name : String) : Option Value :=
  match f with
  | .defined _ d => d.part? name
  | .applied _ inner fields => match name with
    | "func" => some inner
    | "args" => some (.tuple .fresh [])
    | "keywords" => some (.dict .fresh [])
    | name => partialPart? fields name
  | .builtin b => b.part? name
  | .predicate _ _ fields => fields.lookup name
  | .checked _ c implementation face => match name with
    | "name" => some face.name
    | "_name" => some face.name
    | "contract" => some c
    | "_contract" => some c
    | "implementation" => some implementation
    | "_implementation" => some implementation
    | "__wrapped__" => some implementation
    | "args_schema" => c.attribute? "args_schema"
    | "return_schema" => c.attribute? "return_schema"
    | "mode" => c.attribute? "mode"
    | "_sealed" => some (.bool true)
    | name => face.taken.lookup name
  | .generic _ fields => fields.lookup (if name = "factory" then "_factory" else name)
  | .factory _ n named _ fields => factoryPart? n named fields name

end

/-- The attributes that tell what a function is; one that wraps it takes them over. -/
def identityNames : List String :=
  ["__module__", "__name__", "__qualname__", "__doc__", "__annotations__"]

/-- The attributes that a function takes over from what it wraps. -/
def Value.identity (v : Value) : Fields :=
  identityNames.filterMap fun n => (v.attribute? n).map fun a => (n, a)

/-- What a checked function takes over from its implementation. -/
def Value.face (v : Value) : Face := ⟨v.calledName, v.identity, v.signature?⟩

/-- The names that every checked function has as attributes, whatever its implementation has. -/
def checkedNames : List String :=
  ["name", "contract", "implementation", "args_schema", "return_schema", "mode", "_name",
    "_contract", "_implementation", "_signature", "_sealed", "_bind", "_gate", "__wrapped__",
    "__doc__", "__name__", "__qualname__", "__module__", "__dict__", "__class__", "__call__",
    "__get__", "__repr__", "__init__", "__setattr__", "__weakref__", "__hash__", "__eq__",
    "__str__", "__ne__", "__lt__", "__le__", "__gt__", "__ge__", "__new__", "__reduce__",
    "__reduce_ex__", "__getattribute__", "__delattr__", "__format__", "__sizeof__", "__dir__",
    "__init_subclass__", "__subclasshook__", "__getstate__"]

end CallContract
