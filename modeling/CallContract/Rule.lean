import CallContract.Rule.Limit

/-!
# Rules

A rule is what a schema comes down to when values are checked by it. Length limits are part of
the rule of a list; other limits and predicates come after the rule that they narrow. A function in
place of a type takes the value as its arguments and is called. An annotation by which the engine
checks values in a way of its own has a rule that asks its validator. A rule is unresolved if the
name of a type in it is not known; it can be had but not applied.
-/

namespace CallContract

/-- A rule for values. -/
inductive Rule where
  | any
  | null
  | bool
  | int
  | float
  | text
  | bytes
  | callable
  | point
  | optional (inner : Rule)
  | list (item : Rule) (least most : Option Nat)
  | set (item : Rule)
  | frozenset (item : Rule)
  | variadic (item : Rule)
  | fixed (items : List Rule)
  | dict (key value : Rule)
  | limited (inner : Rule) (limits : List Limit)
  | after (inner : Rule) (predicate message : Value)
  | call (signature : List (Parameter Value)) (function : Value)
  | own (type : Value)
  | unresolved
  deriving Inhabited

/-- The rule for a basic type. -/
def BaseType.rule : BaseType → Rule
  | .int => .int
  | .float => .float
  | .text => .text
  | .bool => .bool
  | .bytes => .bytes
  | .any => .any
  | .object => .any
  | .null => .null
  | .list => .list .any none none
  | .dict => .dict .any .any
  | .tuple => .variadic .any
  | .set => .set .any
  | .frozenset => .frozenset .any
  | .callable => .callable
  | .point => .point

/-- A rule that is ready for use, with a number that tells it apart from an equal one made at
another time. -/
structure Adapter where
  id : Nat
  rule : Rule
  deriving Inhabited

end CallContract
