import CallContract.Rule.Scalar
import CallContract.Session
import CallContract.Value.Equality

/-!
# Applying rules

`Rule.apply` checks a value by a rule, strictly or laxly. The outcome is the checked value or the
list of all issues, in order. Containers are made anew, so that the result shares no container
with the input except where the rule accepts anything.

A predicate is called by the function `apply`, which the caller gives. It is asked about the value
that its inner rule gave, and only if that rule found no issue. A fault of the predicate becomes an
issue if it says something about the value (`Fault.remark?`); otherwise it ends the whole
check. The validator of an annotation is asked in the same way (`consult`), and what it answers is
the checked value.
-/

namespace CallContract

/-- The outcome of a check: the checked value, or the issues. -/
abbrev Verdict := Except (List Issue) Value

namespace Verdict

/-- The outcome for one value read by itself. -/
def ofReading (v : Value) : Reading → Verdict
  | .ok w => .ok w
  | .error c => .error [.here c v]

/-- A verdict with a single issue about a whole value. -/
def refuse (c : Complaint) (v : Value) : Verdict := .error [.here c v]

/-- The verdict on a container from the issues and the values of its parts. -/
def ofParts (issues : List Issue) (whole : Value) : Verdict :=
  if issues.isEmpty then .ok whole else .error issues

/-- The issues of a verdict. -/
def issues : Verdict → List Issue
  | .ok _ => []
  | .error is => is

end Verdict

/-- Put the verdict on a part in front of the issues and values of the later parts. -/
def addPart (p : Place) (r : Verdict) (rest : List Issue × List Value) :
    List Issue × List Value :=
  match r with
  | .ok w => (rest.1, w :: rest.2)
  | .error is => (is.map (Issue.within p) ++ rest.1, rest.2)

/-- Check all items, the first of which has index `i`; the issues and the checked values of the
items that have none. -/
def applyItems (check : Value → Run Verdict) : Nat → List Value → Run (List Issue × List Value)
  | _, [] => return ([], [])
  | i, v :: vs => do
    let r ← check v
    let rest ← applyItems check (i + 1) vs
    return addPart (.index i) r rest

/-- The place of a dictionary key: a whole number or a text stands for itself, all else for what
is shown of it. -/
def keyPlace : Value → Place
  | .bool b => .index (if b then 1 else 0)
  | .int i => if Scalar.fitsWord i then .index i else .key (Piece.ofInt i).mark
  | k => .key (k.text?.getD k.print)

/-- Check all entries of a dictionary, each key before its value. Issues of a key are found at a
place of their own below the key. An entry without issues has to have a key that can be one. -/
def applyEntries (checkKey checkValue : Value → Run Verdict) :
    List (Value × Value) → Run (List Issue × List (Value × Value))
  | [] => return ([], [])
  | (k, v) :: es => do
    let rk ← checkKey k
    let rv ← checkValue v
    if let (.ok k', .ok _) := (rk, rv) then
      if !k'.isHashable then throw .wrongType
    let rest ← applyEntries checkKey checkValue es
    let place := keyPlace k
    match rk, rv with
    | .ok k', .ok v' => return (rest.1, (k', v') :: rest.2)
    | rk, rv =>
      let keyIssues := rk.issues.map fun i => (i.within (.key "[key]")).within place
      let valueIssues := rv.issues.map (Issue.within place)
      return (keyIssues ++ valueIssues ++ rest.1, rest.2)

/-- The items of a container. In a strict check only one sort of container will do, whose items
`own` finds; in a lax check all that holds elements. -/
def containerItems (own : Value → Option (List Value)) (strict : Bool) (v : Value) :
    Option (List Value) :=
  if strict then own v else v.elements?

/-- The number of items of a container; what gives its fields as elements does not tell how many
they are. -/
def knownLength (v : Value) : Option Nat := v.items?.map List.length

/-- The items that are checked where at most `most` are allowed: one more than these shows that
there are too many. -/
def withinLimit (most : Option Nat) (vs : List Value) : List Value :=
  match most with
  | some m => vs.take (m + 1)
  | none => vs

/-- Whether `n` items are more than allowed. -/
def exceeds (n : Nat) (most : Option Nat) : Option Nat := most.filter fun m => m < n

/-- The verdict on an item `v` of a set: what it is checked to be has to be hashable. -/
def asMember (v : Value) (r : Verdict) : Verdict :=
  match r with
  | .ok w => if w.isHashable then .ok w else .refuse .notHashable v
  | .error is => .error is

/-- A coordinate of a point that is given by a dictionary, or the verdict `missing` if it is left
out. -/
def coordinate (strict : Bool) (entries : List (Value × Value)) (name : String)
    (missing : Verdict) : Verdict :=
  let verdict := match lookupEntry (.text name) entries with
    | some v => Verdict.ofReading v (Scalar.int strict v)
    | none => missing
  verdict.mapError fun is => is.map (Issue.within (.key name))

/-- A point, or a dictionary with its coordinates, of which the second may be left out. -/
def applyPoint (strict : Bool) (v : Value) : Verdict :=
  match v with
  | .point l x y fields => .ok (.point l x y fields)
  | .dict _ es =>
    let x := coordinate strict es "x" (.refuse .missing v)
    let y := coordinate strict es "y" (.ok (.int 0))
    match x, y with
    | .ok a, .ok b => .ok (.point .fresh a b [])
    | x, y => .error (x.issues ++ y.issues)
  | v => .refuse .notPoint v

/-- What a fault says about the value `v` that was being looked at. Issues found by the way count as
issues with the value. -/
def Fault.issues? (v : Value) : Fault → Option (List Issue)
  | .unfit issues => some issues
  | f => f.remark?.map fun c => [Issue.here c v]

/-- Ask a predicate about a checked value; `v` is the value before the check, which the issue
shows. -/
def narrow (apply : Caller) (predicate message v w : Value) : Run Verdict := do
  let answer ← tryCatch ((apply.ask predicate w).map Except.ok) fun fault =>
    match fault.issues? v with
    | some is => return .error is
    | none => throw fault
  match answer with
  | .error is => return .error is
  | .ok a =>
    if a.isTruthy then return .ok w
    else match message.text? with
      | some m => return .refuse (.refused m) v
      | none => throw .wrongType

/-- Ask a validator about a value: its answer is the checked value. -/
def consult (apply : Caller) (validator v : Value) : Run Verdict :=
  tryCatch ((apply.ask validator v).map Except.ok) fun fault =>
    match fault.issues? v with
    | some is => return .error is
    | none => throw fault

/-- The positional values and the keywords that a value gives to a function: a list or tuple gives
the former, a dictionary the latter. -/
def givenArguments? : Value → Option (List Value × List (Value × Value))
  | .tuple _ xs => some (xs, [])
  | .list _ xs => some (xs, [])
  | .dict _ es => some ([], es)
  | _ => none

/-- What is found out about arguments so far: the issues, the positional values and the keywords. -/
structure Gathered where
  issues : List Issue
  args : List Value
  kw : Fields

namespace Gathered

/-- One more issue. -/
def complain (g : Gathered) (c : Complaint) (p : Place) (v : Value) : Gathered :=
  { g with issues := g.issues ++ [(Issue.here c v).within p] }

/-- One more positional value. -/
def push (g : Gathered) (v : Value) : Gathered := { g with args := g.args ++ [v] }

/-- One more keyword. -/
def name (g : Gathered) (n : String) (v : Value) : Gathered := { g with kw := g.kw ++ [(n, v)] }

end Gathered

/-- Give a parameter its value: that at its position, or under its name, or its default. -/
def gatherOne (whole : Value) (args : List Value) (kw : List (Value × Value)) (g : Gathered)
    (index : Nat) (p : Parameter Value) : Gathered :=
  let byPosition := if p.kind = .keyword then none else args[index]?
  let byName := if p.kind = .positional then none else lookupEntry (.text p.name) kw
  match byPosition, byName, p.default with
  | some _, some v, _ => g.complain .doubledArgument (.key p.name) v
  | some v, none, _ => g.push v
  | none, some v, _ => g.name p.name v
  | none, none, some d => if p.kind = .positional then g.push d else g.name p.name d
  | none, none, none => match p.kind with
    | .positional => g.complain .missingPositional (.index index) whole
    | .keyword => g.complain .missingKeyword (.key p.name) whole
    | _ => g.complain .missingArgument (.key p.name) whole

/-- Take the positional values that no parameter takes, the first of which has index `i`. -/
def gatherExtra (collects : Bool) (g : Gathered) (i : Nat) : List Value → Gathered
  | [] => g
  | v :: vs =>
    let g := if collects then g.push v else g.complain .extraPositional (.index i) v
    gatherExtra collects g (i + 1) vs

/-- Take the keywords that no parameter takes. -/
def gatherNamed (collects : Bool) (taken : List String) (g : Gathered) :
    List (Value × Value) → Gathered
  | [] => g
  | (k, v) :: es =>
    let g := match k.text? with
      | none => g.complain .keyNotText (keyPlace k) k
      | some n =>
        if taken.contains n then g
        else if collects then g.name n v
        else g.complain .extraKeyword (.key n) v
    gatherNamed collects taken g es

/-- The arguments that a value gives to a function with the given parameters. -/
def argumentsOf (sig : List (Parameter Value)) (v : Value) :
    Except (List Issue) (List Value × Fields) :=
  match givenArguments? v with
  | none => .error [.here .notArguments v]
  | some (args, kw) =>
    let single := sig.filter fun p => p.kind ≠ .variadic ∧ p.kind ≠ .keywords
    let places := single.countP fun p => p.kind = .positional ∨ p.kind = .standard
    let taken := (single.filter (·.kind ≠ .positional)).map (·.name)
    let g := single.zipIdx.foldl (fun g (p, i) => gatherOne v args kw g i p) ⟨[], [], []⟩
    let g := gatherExtra (sig.any (·.kind = .variadic)) g places (args.drop places)
    let g := gatherNamed (sig.any (·.kind = .keywords)) taken g kw
    if g.issues.isEmpty then .ok (g.args, g.kw) else .error g.issues

mutual

/-- Check a value by a rule. -/
def Rule.apply (apply : Caller) (strict : Bool) : Rule → Value → Run Verdict
  | .any, v => return .ok v
  | .null, v => return .ofReading v (Scalar.null v)
  | .bool, v => return .ofReading v (Scalar.bool strict v)
  | .int, v => return .ofReading v (Scalar.int strict v)
  | .float, v => return .ofReading v (Scalar.float strict v)
  | .text, v => return .ofReading v (Scalar.text strict v)
  | .bytes, v => return .ofReading v (Scalar.bytes strict v)
  | .callable, v => return .ofReading v (Scalar.callable v)
  | .point, v => return applyPoint strict v
  | .optional r, v => match v with
    | .null => return .ok .null
    | v => r.apply apply strict v
  | .list r least most, v =>
    match containerItems (fun | .list _ xs => some xs | _ => none) strict v with
    | none => return .refuse (.mismatch .list) v
    | some xs => do
      let (issues, ws) ← applyItems (fun x => r.apply apply strict x) 0 (withinLimit most xs)
      match exceeds xs.length most with
      | some m => return .refuse (.tooLong .list m (knownLength v)) v
      | none =>
        if !issues.isEmpty then return .error issues
        else if xs.length < least.getD 0 then
          return .refuse (.tooShort (least.getD 0) xs.length) v
        else return .ok (.list .fresh ws)
  | .set r, v =>
    match containerItems (fun | .set _ xs => some xs | _ => none) strict v with
    | none => return .refuse (.mismatch .set) v
    | some xs => do
      let (issues, ws) ← applyItems (fun x => asMember x <$> r.apply apply strict x) 0 xs
      return .ofParts issues (.set .fresh (distinct ws))
  | .frozenset r, v =>
    match containerItems (fun | .frozenset _ xs => some xs | _ => none) strict v with
    | none => return .refuse (.mismatch .frozenset) v
    | some xs => do
      let (issues, ws) ← applyItems (fun x => asMember x <$> r.apply apply strict x) 0 xs
      return .ofParts issues (.frozenset .fresh (distinct ws))
  | .variadic r, v =>
    match containerItems (fun | .tuple _ xs => some xs | _ => none) strict v with
    | none => return .refuse (.mismatch .tuple) v
    | some xs => do
      let (issues, ws) ← applyItems (fun x => r.apply apply strict x) 0 xs
      return .ofParts issues (.tuple .fresh ws)
  | .fixed rs, v =>
    match containerItems (fun | .tuple _ xs => some xs | _ => none) strict v with
    | none => return .refuse (.mismatch .tuple) v
    | some xs => do
      let (issues, ws) ← applyFixed apply strict v rs 0 xs
      match exceeds xs.length (some rs.length) with
      | some n => return .refuse (.tooLong .tuple n (knownLength v)) v
      | none => return .ofParts issues (.tuple .fresh ws)
  | .dict rk rv, v => match v with
    | .dict _ es => do
      let (issues, fs) ← applyEntries (fun k => rk.apply apply strict k)
        (fun x => rv.apply apply strict x) es
      return .ofParts issues (.dict .fresh (fs.foldl (fun acc (k, x) => putEntry acc k x) []))
    | v => return .refuse (.mismatch .dict) v
  | .limited r ls, v => do
    match ← r.apply apply strict v with
    | .error is => return .error is
    | .ok w => match firstComplaint? ls w with
      | some c => return .refuse c v
      | none => return .ok w
  | .after r p m, v => do
    match ← r.apply apply strict v with
    | .error is => return .error is
    | .ok w => narrow apply p m v w
  | .call sig f, v => do
    match argumentsOf sig v with
    | .error is => return .error is
    | .ok (args, kw) => .ok <$> apply f args kw
  | .own t, v => consult apply (t.validator strict) v
  | .unresolved, _ => throw .unknownName

/-- Check the items of `whole` by the rules of a tuple, from index `i` on. A rule without an item
is an issue; items without a rule are left alone. -/
def applyFixed (apply : Caller) (strict : Bool) (whole : Value) :
    List Rule → Nat → List Value → Run (List Issue × List Value)
  | [], _, _ => return ([], [])
  | r :: rs, i, vs => match vs with
    | [] => do
      let rest ← applyFixed apply strict whole rs (i + 1) []
      return addPart (.index i) (.refuse .missing whole) rest
    | v :: vs => do
      let verdict ← r.apply apply strict v
      let rest ← applyFixed apply strict whole rs (i + 1) vs
      return addPart (.index i) verdict rest

end

end CallContract
