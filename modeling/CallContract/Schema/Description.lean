import CallContract.Fault
import CallContract.Rule
import CallContract.Value.Equality

/-!
# Described rules

A dictionary in place of a type describes a rule: the entry `type` has the word for its sort, and
others have the limits that narrow it and the descriptions of its parts. Entries that mean nothing
for the sort are left alone. The engine knows more sorts, and more that narrows one, than there are
rules here; values are then checked by its own validator (`Description.isOwn`).
-/

namespace CallContract

/-- The greatest length of a list that a rule can ask for, plus one. -/
def lengthRange : Nat := twoTo 64

/-- A bound as a number of items: a whole number or a truth value, not too large. -/
def Numeral.count (n : Numeral) : Except Fault Nat :=
  match n.whole? with
  | some i => if 0 ≤ i ∧ i < lengthRange then .ok i.toNat else .error .badRule
  | none => .error .badRule

/-- An entry of a description: its value, the rule that this describes, and those that its items
describe. -/
structure Described where
  value : Value
  rule : Except Fault Rule
  items : Option (Except Fault (List Rule))

/-- The entries of a description by their names. -/
abbrev Description := List (String × Described)

namespace Description

/-- The value of an entry as a number. -/
def numeral (d : Description) (name : String) : Except Fault (Option Numeral) :=
  match d.lookup name with
  | none => .ok none
  | some e => match e.value.numeral? with
    | some n => .ok (some n)
    | none => .error .badRule

/-- The value of an entry as a number of items. -/
def count (d : Description) (name : String) : Except Fault (Option Nat) := do
  match ← d.numeral name with
  | none => return none
  | some n => return some (← n.count)

/-- The rule that an entry describes; without the entry, any value will do. -/
def part (d : Description) (name : String) : Except Fault Rule :=
  match d.lookup name with
  | none => .ok .any
  | some e => e.rule

/-- The rule that an entry describes, which has to be there. -/
def inner (d : Description) (name : String) : Except Fault Rule :=
  match d.lookup name with
  | none => .error (.noKey (quoted name))
  | some e => e.rule

/-- The bound that an entry gives, which has to be a whole number if `whole` is set. -/
def bound (d : Description) (whole : Bool) (name : String) (b : Bound) :
    Except Fault (Option Limit) := do
  match ← d.numeral name with
  | none => return none
  | some n => match n.whole?, whole with
    | some i, _ => return some (.bound b (.whole i))
    | none, false => return some (.bound b n)
    | none, true => throw .badRule

/-- The number that others have to be a multiple of, by an entry. -/
def multiple (d : Description) : Except Fault (Option Limit) := do
  match (← d.numeral "multiple_of").map Numeral.whole? with
  | none => return none
  | some (some i) => return some (.multiple i)
  | some none => throw .badRule

/-- The bounds of a number, in the order in which they are looked at. -/
def bounds (d : Description) (whole : Bool) : Except Fault (List Limit) := do
  let multiple ← if whole then d.multiple else pure none
  let atMost ← d.bound whole "le" .atMost
  let below ← d.bound whole "lt" .below
  let atLeast ← d.bound whole "ge" .atLeast
  let above ← d.bound whole "gt" .above
  return [multiple, atMost, below, atLeast, above].reduceOption

/-- The limits of a length. -/
def lengths (d : Description) : Except Fault (List Limit) := do
  let least ← d.count "min_length"
  let most ← d.count "max_length"
  return [least.map Limit.shortest, most.map Limit.longest].reduceOption

/-- A rule with the limits that there are. -/
def limited (r : Rule) (ls : List Limit) : Rule := if ls.isEmpty then r else .limited r ls

/-- The values that will do, of which there has to be one. -/
def choices (d : Description) : Except Fault Rule :=
  match (d.lookup "expected").bind (·.value.items?) with
  | some (v :: vs) => .ok (.limited .any [.among (v :: vs)])
  | _ => .error .badRule

/-- The rule for a tuple with the described items, the only one of which may stand for any number.
Where one among others does, the engine has a validator of its own. -/
def tuple (d : Description) (whole : Value) : Except Fault Rule := do
  let some items := (d.lookup "items_schema").bind (·.items) | throw .badRule
  let rules ← items
  match d.lookup "variadic_item_index", rules with
  | none, rs => return .fixed rs
  | some _, [r] => return .variadic r
  | some _, _ => return .own whole

/-- The sorts of rules that the engine has besides those that are made here. -/
def ownSorts : List String :=
  ["decimal", "complex", "date", "time", "datetime", "timedelta", "uuid", "url", "multi-host-url",
    "enum", "is-instance", "is-subclass", "missing-sentinel", "generator", "function-after",
    "function-before", "function-wrap", "function-plain", "default", "union", "tagged-union",
    "chain", "lax-or-strict", "json-or-python", "json", "typed-dict", "model", "model-fields",
    "dataclass", "dataclass-args", "arguments", "arguments-v3", "call", "custom-error",
    "definitions", "definition-ref"]

/-- What else narrows or changes values of a sort besides the limits that are looked at here. -/
def ownEntries : String → List String
  | "float" => ["multiple_of", "allow_inf_nan"]
  | "str" => ["pattern", "strip_whitespace", "to_lower", "to_upper", "coerce_numbers_to_str"]
  | "list" => ["fail_fast"]
  | "set" | "frozenset" | "dict" | "tuple" => ["min_length", "max_length", "fail_fast"]
  | _ => []

/-- Whether only the validator of the engine goes by all that a description of a sort says. -/
def isOwn (d : Description) (sort : String) : Bool :=
  ownSorts.contains sort || (ownEntries sort).any fun name => (d.lookup name).isSome

/-- The rule that the entries of a dictionary describe, which as a value is `whole`. -/
def rule (d : Description) (whole : Value) : Except Fault Rule :=
  match d.lookup "type" with
  | none => .error (.noKey (quoted "type"))
  | some e => if (e.value.text?.map d.isOwn).getD false then .ok (.own whole)
    else match e.value.text? with
    | some "any" => .ok .any
    | some "none" => .ok .null
    | some "bool" => .ok .bool
    | some "int" => return limited .int (← d.bounds true)
    | some "float" => return limited .float (← d.bounds false)
    | some "str" => return limited .text (← d.lengths)
    | some "bytes" => return limited .bytes (← d.lengths)
    | some "callable" => .ok .callable
    | some "literal" => d.choices
    | some "nullable" => return .optional (← d.inner "schema")
    | some "list" =>
      return .list (← d.part "items_schema") (← d.count "min_length") (← d.count "max_length")
    | some "set" => return .set (← d.part "items_schema")
    | some "frozenset" => return .frozenset (← d.part "items_schema")
    | some "dict" => return .dict (← d.part "keys_schema") (← d.part "values_schema")
    | some "tuple" => d.tuple whole
    | some _ => .error .badRule
    | none => .error .wrongType

end Description

/-- The fault of a description for one that it is a part of. -/
def nestedFault : Fault → Fault
  | .noKey _ => .badRule
  | f => f

mutual

/-- The rule that a value describes. -/
def Value.describedRule : Value → Except Fault Rule
  | .dict l es => (describedEntries es).rule (.dict l es)
  | _ => .error .badRule

/-- The rules that the items of a list describe. -/
def Value.describedItems : Value → Option (Except Fault (List Rule))
  | .list _ vs => some (describedRules vs)
  | _ => none

/-- The rules that values describe. -/
def describedRules : List Value → Except Fault (List Rule)
  | [] => .ok []
  | v :: vs => do
    let r ← v.describedRule.mapError nestedFault
    return r :: (← describedRules vs)

/-- The entries of a dictionary as those of a description. -/
def describedEntries : List (Value × Value) → Description
  | [] => []
  | (k, v) :: es =>
    (k.text?.getD "", ⟨v, v.describedRule.mapError nestedFault, v.describedItems⟩) ::
      describedEntries es

end

end CallContract
