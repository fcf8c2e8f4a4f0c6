import CallContract.Fault

/-!
# Promotion and construction of schemas

Wherever a schema is wanted, any value will do: a schema stands for itself, a list or tuple for
the tuple schema of its promoted items, and all else is taken as an annotation (`promote`). The
constructors below promote their parts and refuse what cannot make a schema: a predicate that
cannot be called, and bounds that no list can meet.
-/

namespace CallContract

mutual

/-- The schema that a value stands for. -/
def promote : Value → Schema
  | .schema s => s
  | .list _ xs => .tuple .fresh (promoteAll xs)
  | .tuple _ xs => .tuple .fresh (promoteAll xs)
  | .null => .primitive .fresh (.type .null)
  | v => .primitive .fresh v

/-- The schemas that the items of a list stand for. -/
def promoteAll : List Value → List Schema
  | [] => []
  | x :: xs => promote x :: promoteAll xs

end

@[simp] theorem promote_schema (s : Schema) : promote (.schema s) = s := by
  simp [promote]

theorem promoteAll_eq_map (xs : List Value) : promoteAll xs = xs.map promote := by
  induction xs with
  | nil => simp [promoteAll]
  | cons x xs ih => simp [promoteAll, ih]

@[simp] theorem promoteAll_length (xs : List Value) : (promoteAll xs).length = xs.length := by
  rw [promoteAll_eq_map, List.length_map]

namespace Schema

/-- The message of a refinement that is not given one. -/
def defaultMessage : Value := .text "Invalid input"

/-- A schema narrowed by a predicate. -/
def refine (base predicate message : Value) : Except Fault Schema :=
  if predicate.isCallable then .ok (.refined .fresh (promote base) predicate message)
  else .error (.definition .predicateNotCallable)

/-- The schema of the tuples with one item for each of the given schemas. -/
def tupleOf (items : List Value) : Schema := .tuple .fresh (promoteAll items)

/-- A bound of an array schema: missing, or a numeral that is not negative. -/
def bound (name : BoundName) (v : Value) : Except Fault (Option Numeral) :=
  match v with
  | .null => .ok none
  | v =>
    match v.numeral? with
    | none => .error .wrongType
    | some n => do
      if n.less (.whole 0) then throw (.definition (.negativeBound name (← v.tell)))
      return some n

/-- Refuse bounds that do not go together: an exact length beside another bound, or a least
length above the greatest. -/
def compatible (length least most : Option Numeral) : Except Fault Unit :=
  if length.isSome && (least.isSome || most.isSome) then .error (.definition .lengthWithBounds)
  else match least, most with
    | some a, some b => do
      if b.less a then
        let shownLeast ← (Value.ofNumeral a).tell
        let shownMost ← (Value.ofNumeral b).tell
        throw (.definition (.boundsCrossed shownLeast shownMost))
    | _, _ => .ok ()

/-- The array schema with the given parts. -/
def array? (element : Schema) (length least most : Value) : Except Fault Schema := do
  let n ← bound .length length
  let lo ← bound .least least
  let hi ← bound .most most
  compatible n lo hi
  return .array .fresh element n lo hi

/-- The schema of the lists whose items match `element`. -/
def arrayOf (element length least most : Value) : Except Fault Schema :=
  array? (promote element) length least most

/-- Whether a schema is a tuple schema. -/
def isTuple : Schema → Bool
  | .tuple .. => true
  | _ => false

/-- The schema of functions that take and return the given. A single schema in place of the
arguments stands for one argument. -/
def functionOf (args returns : Value) : Schema :=
  let a := promote args
  .function .fresh (if a.isTuple then a else .tuple .fresh [a]) (promote returns)

/-- The schema of functions made by the unchecked constructor. -/
def function? (args returns : Option Value) : Schema :=
  .function .fresh ((args.map Value.asPart).getD (.tuple Label.defaultArgs []))
    ((returns.map Value.asPart).getD (.any Label.defaultReturns))

end Schema

end CallContract
