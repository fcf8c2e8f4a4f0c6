import CallContract.Fault

/-!
# Signatures and arguments

A call gives values by position and values by name. `bind` decides which parameter each of them
goes to and refuses a call that does not fit; `Bindings.positional` and `Bindings.named` give the
arguments back, as many as possible by position. `enter` is what a function does when it is
entered: every parameter gets a value, its default if nothing was given for it.
-/

namespace CallContract

/-- The parameters of a function, in order. -/
abbrev Signature := List (Parameter Value)

/-- Values given by name. -/
abbrev Keywords := List (String × Value)

/-- The keywords without one name. -/
def Keywords.drop (kw : Keywords) (name : String) : Keywords := kw.filter (·.1 ≠ name)

/-- Whether a name is among the keywords. -/
def Keywords.has (kw : Keywords) (name : String) : Bool := kw.any (·.1 == name)

/-- What a parameter gets: one value, all remaining positional values, or all remaining
keywords. -/
inductive Binding where
  | one (v : Value)
  | many (vs : List Value)
  | named (kw : Keywords)
  deriving Inhabited

/-- The parameters of a signature, in order, each with what the call gave for it. -/
abbrev Bindings := List (Parameter Value × Option Binding)

/-- Give the positional values to the parameters in turn. The answer has the parameters that are
done and those that are left for the keywords. A parameter that meets no value ends this: one
without a default has to be among the keywords. -/
def bindPositional : Signature → List Value → Keywords → Except BindingFault (Bindings × Signature)
  | [], [], _ => .ok ([], [])
  | [], _ :: _, _ => .error .tooMany
  | p :: ps, [], kw =>
    if p.kind = .variadic then .ok ([(p, none)], ps)
    else if kw.has p.name then
      if p.kind = .positional then .error (.positionalByName p.name) else .ok ([], p :: ps)
    else if p.kind = .keywords ∨ p.default.isSome then .ok ([], p :: ps)
    else .error (.missing p.name)
  | p :: ps, v :: vs, kw =>
    if p.kind = .keyword ∨ p.kind = .keywords then .error .tooMany
    else if p.kind = .variadic then .ok ([(p, some (.many (v :: vs)))], ps)
    else if kw.has p.name ∧ p.kind ≠ .positional then .error (.twice p.name)
    else do
      let (done, rest) ← bindPositional ps vs kw
      return ((p, some (.one v)) :: done, rest)

/-- Give the keywords to the remaining parameters by their names. The answer has the keywords
that no parameter took. -/
def bindNamed : Signature → Keywords → Except BindingFault (Bindings × Keywords)
  | [], kw => .ok ([], kw)
  | p :: ps, kw =>
    if p.kind = .keywords ∨ p.kind = .variadic then do
      let (done, rest) ← bindNamed ps kw
      return ((p, none) :: done, rest)
    else match kw.lookup p.name with
      | some v =>
        if p.kind = .positional then .error (.positionalByName p.name)
        else do
          let (done, rest) ← bindNamed ps (kw.drop p.name)
          return ((p, some (.one v)) :: done, rest)
      | none =>
        if p.default.isNone then .error (.missing p.name)
        else do
          let (done, rest) ← bindNamed ps kw
          return ((p, none) :: done, rest)

/-- Give the keywords that are left over to the parameter that collects them. -/
def bindRest (bs : Bindings) (kw : Keywords) : Except BindingFault Bindings :=
  match kw with
  | [] => .ok bs
  | (name, _) :: _ =>
    if bs.any fun (p, _) => p.kind = .keywords then
      .ok (bs.map fun (p, b) => (p, if p.kind = .keywords then some (.named kw) else b))
    else .error (.unknown name)

/-- Decide which parameter each argument goes to. -/
def bind (sig : Signature) (args : List Value) (kw : Keywords) : Except BindingFault Bindings := do
  let (front, left) ← bindPositional sig args kw
  let (back, rest) ← bindNamed left kw
  bindRest (front ++ back) rest

namespace Bindings

/-- The arguments that can be given by position: up to the first parameter that was given
nothing or that takes keywords only. -/
def positional : Bindings → List Value
  | [] => []
  | (p, b) :: rest =>
    if p.kind = .keyword ∨ p.kind = .keywords then []
    else match b with
      | some (.one v) => v :: positional rest
      | some (.many vs) => vs ++ positional rest
      | _ => []

/-- The arguments as keywords. -/
def asKeywords : Bindings → Keywords
  | [] => []
  | (p, b) :: rest =>
    match b with
    | some (.one v) => (p.name, v) :: asKeywords rest
    | some (.named kw) => kw ++ asKeywords rest
    | _ => asKeywords rest

/-- The arguments that have to be given by name: from the first parameter on that was given
nothing or that takes keywords only. -/
def named : Bindings → Keywords
  | [] => []
  | (p, b) :: rest =>
    if p.kind = .keyword ∨ p.kind = .keywords then asKeywords ((p, b) :: rest)
    else if b.isNone then asKeywords rest
    else named rest

end Bindings

/-- Whether a parameter can be given by name. -/
def ParameterKind.byName : ParameterKind → Bool
  | .standard => true
  | .keyword => true
  | _ => false

/-- The keywords that no parameter takes by its name. -/
def surplus (sig : Signature) (kw : Keywords) : Keywords :=
  kw.filter fun (name, _) => !sig.any fun p => p.kind.byName && p.name == name

/-- Give every parameter its value; `extra` are the keywords for the parameter that collects
them. -/
def fill (extra : Keywords) : Signature → List Value → Keywords → Option (List (String × Value))
  | [], [], _ => some []
  | [], _ :: _, _ => none
  | p :: ps, vs, kw =>
    match p.kind, vs with
    | .positional, v :: vs => (fill extra ps vs kw).map ((p.name, v) :: ·)
    | .positional, [] => do
      let d ← p.default
      (fill extra ps [] kw).map ((p.name, d) :: ·)
    | .standard, v :: vs =>
      if kw.has p.name then none else (fill extra ps vs kw).map ((p.name, v) :: ·)
    | .standard, [] => do
      let d ← (kw.lookup p.name).or p.default
      (fill extra ps [] kw).map ((p.name, d) :: ·)
    | .variadic, vs => (fill extra ps [] kw).map ((p.name, .tuple .fresh vs) :: ·)
    | .keyword, vs => do
      let d ← (kw.lookup p.name).or p.default
      (fill extra ps vs kw).map ((p.name, d) :: ·)
    | .keywords, vs =>
      let entries := extra.map fun (n, v) => (Value.text n, v)
      (fill extra ps vs kw).map ((p.name, .dict .fresh entries) :: ·)

/-- The parameters of a function with their values when it is entered, if the arguments fit. -/
def enter (sig : Signature) (args : List Value) (kw : Keywords) : Option (List (String × Value)) :=
  let extra := surplus sig kw
  if extra ≠ [] ∧ !sig.any (·.kind = .keywords) then none
  else fill extra sig args kw

end CallContract
