import CallContract.Signature

/-!
# The signatures of values

The signature by which keywords are bound. A checked or generic function has that of what it
wraps, however deep, and so has a definition with the attribute `__wrapped__`; the attribute
`__signature__` takes the signature away. Some functions that exist from the start have none.
-/

namespace CallContract

/-- A parameter without a default. -/
def required (name : String) (kind : ParameterKind) : Parameter Value := ⟨name, kind, none⟩

/-- The signature of a basic type. -/
def BaseType.signature? : BaseType → Option Signature
  | .float => some [⟨"x", .positional, some (.int 0)⟩]
  | .list => some [⟨"iterable", .positional, some (.tuple .fresh [])⟩]
  | .tuple => some [⟨"iterable", .positional, some (.tuple .fresh [])⟩]
  | .object => some []
  | .any => some [required "args" .variadic, required "kwargs" .keywords]
  | .callable => some [required "args" .variadic, required "kwargs" .keywords]
  | .point => some [required "x" .keyword, ⟨"y", .keyword, some (.int 0)⟩]
  | _ => none

/-- The signature of a function that exists from the start. -/
def Builtin.signature? : Builtin → Option Signature
  | .len => some [required "obj" .positional]
  | .abs => some [required "x" .positional]
  | .sum => some [required "iterable" .positional, ⟨"start", .standard, some (.int 0)⟩]
  | .max => none

/-- The attribute of a definition that names what it wraps. -/
def wrappedName : String := "__wrapped__"

/-- The attribute of a definition that stands for its signature. -/
def signatureName : String := "__signature__"

mutual

/-- The signature of a value. -/
def Value.signature? : Value → Option Signature
  | .type t => t.signature?
  | .function f => f.signature?
  | _ => none

/-- The signature of a function. -/
def Function.signature? : Function → Option Signature
  | .defined _ d => d.signature?
  | .applied _ f fields => statedSignature f.signature? fields
  | .builtin b => b.signature?
  | .predicate _ _ fields => statedSignature (some [required "x" .standard]) fields
  | .checked _ _ f _ => f.signature?
  | .generic _ fields => statedSignature none fields
  | .factory _ _ _ _ fields => statedSignature (some [required "vars" .standard]) fields

/-- The signature of a definition: that of what it wraps, or else its parameters. -/
def Definition.signature? : Definition → Option Signature
  | ⟨_, _, _, _, ps, _, _, _, _, _, attributes⟩ => statedSignature (some ps) attributes

/-- The signature that attributes state, or else the given one: nothing if there is a signature of
another kind among them, or else that of what is wrapped. -/
def statedSignature (own : Option Signature) (attributes : List (String × Value)) :
    Option Signature :=
  match attributes.lookup signatureName with
  | some .null => own
  | some _ => none
  | none => (wrappedSignature attributes).getD own

/-- The signature of what is wrapped by attributes, if anything is. -/
def wrappedSignature : List (String × Value) → Option (Option Signature)
  | [] => none
  | (n, v) :: rest => if n == wrappedName then some v.signature? else wrappedSignature rest

end

/-- A definition without attributes has its parameters as its signature. -/
theorem Definition.signature?_plain (d : Definition) (h : d.attributes = []) :
    d.signature? = some d.parameters := by
  obtain ⟨kind, name, ownName, path, ps, body, scope, doc, home, annotations, attributes⟩ := d
  subst h
  simp [Definition.signature?, statedSignature, wrappedSignature]

/-- However deep a function is wrapped by checked functions, its signature stays the same. -/
@[simp] theorem Function.signature?_checked (id : Nat) (c f : Value) (face : Face) :
    (Function.checked id c f face).signature? = f.signature? := by
  rw [Function.signature?]

end CallContract
