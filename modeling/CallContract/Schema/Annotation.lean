import CallContract.Schema.Description
import CallContract.Schema.Reference
import CallContract.Signature.Lookup
import CallContract.Value.Equality

/-!
# From schemas to rules

A schema becomes a rule in two steps. The first gives an annotation, in which the notes that
narrow a type stand in one list beside it, however the schemas were nested
(`Schema.annotation`). The second turns the annotation into a rule (`Annotation.rule`): length
limits go into the rule of the list, predicates come after it in their order.
-/

namespace CallContract

/-- What narrows an annotation: length limits or a predicate. -/
inductive Note where
  | lengths (least most : Option Numeral)
  | check (predicate message : Value)
  deriving Inhabited

/-- An annotation. -/
inductive Annotation where
  | type (v : Value)
  | any
  | callable
  | list (item : Annotation)
  | tuple (items : List Annotation)
  | noted (base : Annotation) (notes : List Note)
  deriving Inhabited

namespace Annotation

/-- An annotation with one more note, after those that it has. A bare tuple of types and plain data
cannot be narrowed. -/
def note (a : Annotation) (n : Note) : Except Fault Annotation :=
  match a with
  | .noted b ns => .ok (.noted b (ns ++ [n]))
  | .type (.tuple ..) => .error .wrongType
  | .type v => if v.isPlainData then .error .noAttribute else .ok (.noted (.type v) [n])
  | a => .ok (.noted a [n])

/-- An annotation as that of the items of a list. Of a bare tuple of types the first one counts. -/
def asItem : Annotation → Annotation
  | .type (.tuple _ []) => .any
  | .type (.tuple _ (v :: _)) => .type v
  | a => a

end Annotation

/-- The length limits of an array schema: an exact length is both. -/
def lengthLimits (length least most : Option Numeral) : Option Numeral × Option Numeral :=
  match length with
  | some n => (some n, some n)
  | none => (least, most)

mutual

/-- The annotation that a schema stands for. -/
def Schema.annotation : Schema → Except Fault Annotation
  | .bare .. => .error .notImplemented
  | .primitive _ t => .ok (.type t)
  | .any _ => .ok .any
  | .refined _ base p m => do
    let a ← base.annotation
    a.note (.check p m)
  | .tuple _ items => do
    let as ← annotations items
    return .tuple as
  | .array _ element n lo hi => do
    let item := (← element.annotation).asItem
    match lengthLimits n lo hi with
    | (none, none) => return .list item
    | (least, most) => return .noted (.list item) [.lengths least most]
  | .function .. => .ok .callable
  | .foreign _ => .error .noAttribute

/-- The annotations that the schemas of a list stand for. -/
def annotations : List Schema → Except Fault (List Annotation)
  | [] => .ok []
  | s :: ss => do
    let a ← s.annotation
    let as ← annotations ss
    return a :: as

end

/-- The rule for a function in place of a type: plain functions and partial applications are
called. -/
def Function.rule (f : Function) : Except Fault Rule :=
  let plain := match f with
    | .defined _ d => d.kind ≠ .object
    | .applied .. => true
    | .factory _ _ named _ _ => named
    | _ => false
  match plain, f.signature? with
  | true, some sig => .ok (.call sig (.function f))
  | _, _ => .error .noRule

mutual

/-- The rule for what stands in place of a type: a type, a form built from types, the text of a
type, a dictionary that describes a rule, or a function. -/
def Value.rule : Value → Except Fault Rule
  | .null => .ok .null
  | .type t => .ok t.rule
  | .text s => TypeText.ruleOfText s
  | .mode m => TypeText.ruleOfText m.word
  | .boundary b => TypeText.ruleOfText b.word
  | .dict l es => (Value.dict l es).describedRule
  | .function f => f.rule
  | .form _ .list (v :: _) => return .list (← v.rule) none none
  | .form _ .list [] => return .list .any none none
  | .form _ .set (v :: _) => return .set (← v.rule)
  | .form _ .set [] => return .set .any
  | .form _ .frozenset (v :: _) => return .frozenset (← v.rule)
  | .form _ .frozenset [] => return .frozenset .any
  | .form _ .optional [v] => return .optional (← v.rule)
  | .form _ .variadic [v] => return .variadic (← v.rule)
  | .form _ .union vs => do
    let _ ← rules vs
    return .own (Value.form .fresh .union vs).unnamed
  | .form _ .literal vs => return .own (Value.form .fresh .literal vs).unnamed
  | .form _ (.other n) vs => return .own (Value.form .fresh (.other n) vs).unnamed
  | .form _ .marked (v :: marks) =>
    if marks.all Value.isPlainData then v.rule
    else return .own (Value.form .fresh .marked (v :: marks)).unnamed
  | .form _ .reference [v] => v.rule
  | .form _ .dict [k, v] => return .dict (← k.rule) (← v.rule)
  | .form _ .fixed vs => return .fixed (← rules vs)
  | _ => .error .noRule

/-- The rules for the types of a list. -/
def rules : List Value → Except Fault (List Rule)
  | [] => .ok []
  | v :: vs => do
    let r ← v.rule
    let rs ← rules vs
    return r :: rs

end

/-- An optional bound as a number of items. -/
def boundCount : Option Numeral → Except Fault (Option Nat)
  | none => .ok none
  | some n => n.count.map some

/-- A rule narrowed by a note. -/
def Rule.noted (r : Rule) : Note → Except Fault Rule
  | .check p m => .ok (.after r p m)
  | .lengths least most => do
    let lo ← boundCount least
    let hi ← boundCount most
    match r with
    | .list item _ _ => return .list item lo hi
    | r => return r

namespace Annotation

/-- Refuse a type for which there is no rule. A description that no rule fits is found later. -/
def auditType (v : Value) : Except Fault Unit :=
  match v.rule with
  | .ok _ => .ok ()
  | .error .badRule => .ok ()
  | .error f => .error f

mutual

/-- Refuse an annotation with a type in it for which there is no rule. -/
def audit : Annotation → Except Fault Unit
  | .type v => auditType v
  | .any => .ok ()
  | .callable => .ok ()
  | .list a => a.audit
  | .tuple as => auditAll as
  | .noted a _ => a.audit

/-- Refuse annotations with a type in them for which there is no rule. -/
def auditAll : List Annotation → Except Fault Unit
  | [] => .ok ()
  | a :: as => do
    a.audit
    auditAll as

end

mutual

/-- The rule that an annotation stands for. -/
def toRule : Annotation → Except Fault Rule
  | .type v => v.rule
  | .any => .ok .any
  | .callable => .ok .callable
  | .list a => do
    let r ← a.toRule
    return .list r none none
  | .tuple as => do
    let rs ← toRules as
    return .fixed rs
  | .noted a notes => do
    let r ← a.toRule
    notes.foldlM Rule.noted r

/-- The rules that the annotations of a list stand for. -/
def toRules : List Annotation → Except Fault (List Rule)
  | [] => .ok []
  | a :: as => do
    let r ← a.toRule
    let rs ← toRules as
    return r :: rs

end

/-- The rule for an annotation. A type without a rule is found before a bound that no rule can
have. -/
def rule (a : Annotation) : Except Fault Rule := do
  a.audit
  a.toRule

end Annotation

/-- The rule for a schema. A type whose name is not known leaves it unresolved. -/
def Schema.rule (s : Schema) : Except Fault Rule := do
  let a ← s.annotation
  match a.rule with
  | .error .unknownName => return .unresolved
  | r => r

end CallContract
