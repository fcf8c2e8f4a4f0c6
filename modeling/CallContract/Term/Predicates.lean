import CallContract.Session

/-!
# Predicates by name

A predicate is known by a name, and the first body given for a name counts. Some names have a
body to start with, which counts unless another was given before. The bodies are expressions over
the variable `x`.
-/

namespace CallContract

namespace Predicate

/-- The name of the variable of a predicate. -/
def subjectName : String := "x"

/-- The value that a predicate is asked about. -/
def subject : Expr := .var subjectName

/-- A whole number. -/
def number (i : Int) : Expr := .const (.int i)

/-- The bodies that are known from the start. -/
def standard : List (String × Expr) :=
  [("even", .binary .eq (.binary .mod subject (number 2)) (number 0)),
    ("odd", .not (.check (.refined .direct (.type .int) (.named "even") none) subject)),
    ("positive", .binary .lt (number 0) subject),
    ("small", .binary .lt subject (number 10)),
    ("truthy", subject),
    ("short", .binary .lt (.len subject) (number 3)),
    ("nonempty", .len subject),
    ("always", .const (.bool true)),
    ("never", .const (.bool false)),
    ("none", .const .null),
    ("raise_value", .raise .value "bad value"),
    ("raise_empty", .raise .value ""),
    ("raise_assert", .raise .assertion "assertion text"),
    ("raise_type", .raise .type "type text"),
    ("raise_key", .raise .key "k"),
    ("raise_boom", .raise .boom "boom"),
    ("raise_definition", .raise .definition "bad definition"),
    ("raise_contract",
      .validate (.tupleOf [.type .int, .type .int]) (.const (.tuple [.text "a", .null])))]

/-- The predicate of a name, which has the given body if the name has none yet. -/
def define (name : String) (body : Expr) : Run Value := do
  match (← get).predicates.lookup name with
  | some known => return known
  | none =>
    let new : Value := .function (.predicate name body [])
    modify fun s => { s with predicates := s.predicates ++ [(name, new)] }
    return new

/-- The predicate of a name that has a body by now or had one from the start. -/
def named (name : String) : Run Value := do
  match (← get).predicates.lookup name, standard.lookup name with
  | some known, _ => return known
  | none, some body => define name body
  | none, none => throw (.noKey (quoted name))

end Predicate

end CallContract
