import CallContract.Proofs.Distinct
import CallContract.Proofs.Refusal

/-!
# What passes a rule

A check by a rule that finds no issue makes a value of the one that it checks. `Passes` says what it
makes of which value, with one clause for each form of rules, and without issues and their places.
These are exactly the checks that go well (`Rule.passes_iff`), so what holds of all values that come
out of a check is shown by going through the clauses.

Predicates are user code and may change the session. Therefore the clauses relate the session before
a check to the one after it.
-/

namespace CallContract

/-! ### The rules in a rule -/

mutual

/-- Whether a rule and all rules that it is made of have a property. -/
def Rule.Each (P : Rule → Prop) : Rule → Prop
  | .optional r => P (.optional r) ∧ r.Each P
  | .list r least most => P (.list r least most) ∧ r.Each P
  | .set r => P (.set r) ∧ r.Each P
  | .frozenset r => P (.frozenset r) ∧ r.Each P
  | .variadic r => P (.variadic r) ∧ r.Each P
  | .fixed rs => P (.fixed rs) ∧ EachOf P rs
  | .dict rk rv => P (.dict rk rv) ∧ rk.Each P ∧ rv.Each P
  | .limited r ls => P (.limited r ls) ∧ r.Each P
  | .after r p m => P (.after r p m) ∧ r.Each P
  | r => P r

/-- Whether this is so for all rules of a list. -/
def EachOf (P : Rule → Prop) : List Rule → Prop
  | [] => True
  | r :: rs => r.Each P ∧ EachOf P rs

end

theorem Rule.Each.head {P : Rule → Prop} {r : Rule} (h : r.Each P) : P r := by
  cases r <;> first | exact h.1 | exact h

theorem EachOf.replicate {P : Rule → Prop} {r : Rule} (h : r.Each P) (k : Nat) :
    EachOf P (.replicate k r) := by
  induction k with
  | zero => trivial
  | succ k ih => exact ⟨h, ih⟩

theorem AskOnly.replicate {P : Value → Prop} {r : Rule} (asks : r.AsksOnly P) (k : Nat) :
    AskOnly P (.replicate k r) := by
  induction k with
  | zero => trivial
  | succ k ih => exact ⟨asks, ih⟩

/-! ### The clauses -/

/-- The items of a list. In a lax check, other containers stand for the list of their elements. -/
def listItems (b : Bool) (v : Value) : Option (List Value) :=
  containerItems (fun | .list _ xs => some xs | _ => none) b v

/-- The elements of a tuple. In a lax check, other containers stand for the tuple of their
elements. -/
def tupleItems (b : Bool) (v : Value) : Option (List Value) :=
  containerItems (fun | .tuple _ xs => some xs | _ => none) b v

/-- The members of a set, and of what stands for one in a lax check. -/
def setItems (b : Bool) (v : Value) : Option (List Value) :=
  containerItems (fun | .set _ xs => some xs | _ => none) b v

/-- The members of a frozenset, and of what stands for one in a lax check. -/
def frozensetItems (b : Bool) (v : Value) : Option (List Value) :=
  containerItems (fun | .frozenset _ xs => some xs | _ => none) b v

/-- The reading by which a rule takes a single value. -/
def Rule.reading? (b : Bool) (v : Value) : Rule → Option Reading
  | .null => some (Scalar.null v)
  | .bool => some (Scalar.bool b v)
  | .int => some (Scalar.int b v)
  | .float => some (Scalar.float b v)
  | .text => some (Scalar.text b v)
  | .bytes => some (Scalar.bytes b v)
  | .callable => some (Scalar.callable v)
  | _ => none

mutual

/-- `Passes apply b r v s w t`: a check by the rule `r`, strict if `b` is set, accepts the value `v`
and makes `w` of it; the session was `s` before and is `t` after that. -/
inductive Passes (apply : Caller) (b : Bool) :
    Rule → Value → Session → Value → Session → Prop where
  /-- Any value passes as it is. -/
  | any {v : Value} {s : Session} : Passes apply b .any v s v s
  /-- A single value passes as it is read. -/
  | read {r : Rule} {v w : Value} {s : Session} : r.reading? b v = some (.ok w) →
    Passes apply b r v s w s
  /-- A point passes, or what a point can be made of. -/
  | point {v w : Value} {s : Session} : applyPoint b v = .ok w → Passes apply b .point v s w s
  /-- Nothing passes where a value may be left out. -/
  | nothing {r : Rule} {s : Session} : Passes apply b (.optional r) .null s .null s
  /-- A value passes that is not left out. -/
  | present {r : Rule} {v w : Value} {s t : Session} : v ≠ .null → Passes apply b r v s w t →
    Passes apply b (.optional r) v s w t
  /-- The length of a list is within its limits, and all items pass. -/
  | list {r : Rule} {least most : Option Nat} {v : Value} {vs ws : List Value} {s t : Session} :
    listItems b v = some vs →
    exceeds vs.length most = none → ¬ vs.length < least.getD 0 →
    PassEach apply b (.replicate vs.length r) vs s ws t →
    Passes apply b (.list r least most) v s (.list .fresh ws) t
  /-- All members of a set pass, and can be members after that. -/
  | set {r : Rule} {v : Value} {vs ws : List Value} {s t : Session} :
    setItems b v = some vs →
    PassEach apply b (.replicate vs.length r) vs s ws t → (∀ w ∈ ws, w.isHashable = true) →
    Passes apply b (.set r) v s (.set .fresh (distinct ws)) t
  /-- The same for a set that cannot be changed. -/
  | frozenset {r : Rule} {v : Value} {vs ws : List Value} {s t : Session} :
    frozensetItems b v = some vs →
    PassEach apply b (.replicate vs.length r) vs s ws t → (∀ w ∈ ws, w.isHashable = true) →
    Passes apply b (.frozenset r) v s (.frozenset .fresh (distinct ws)) t
  /-- All items of a tuple pass. -/
  | variadic {r : Rule} {v : Value} {vs ws : List Value} {s t : Session} :
    tupleItems b v = some vs →
    PassEach apply b (.replicate vs.length r) vs s ws t →
    Passes apply b (.variadic r) v s (.tuple .fresh ws) t
  /-- Each item of a tuple passes the rule in its place. -/
  | fixed {rs : List Rule} {v : Value} {vs ws : List Value} {s t : Session} :
    tupleItems b v = some vs →
    PassEach apply b rs vs s ws t → Passes apply b (.fixed rs) v s (.tuple .fresh ws) t
  /-- All entries of a dictionary pass. -/
  | dict {rk rv : Rule} {l : Label} {es fs : List (Value × Value)} {s t : Session} :
    PassEntries apply b rk rv es s fs t →
    Passes apply b (.dict rk rv) (.dict l es) s (.dict .fresh (putEntries fs)) t
  /-- The limits have nothing against what the inner rule makes of a value. -/
  | limited {r : Rule} {ls : List Limit} {v w : Value} {s t : Session} :
    Passes apply b r v s w t → firstComplaint? ls w = none →
    Passes apply b (.limited r ls) v s w t
  /-- The predicate agrees to what the inner rule makes of a value. -/
  | after {r : Rule} {p m v w answer : Value} {s t u : Session} : Passes apply b r v s w t →
    (apply.ask p w).exec t = (.ok answer, u) → answer.isTruthy = true →
    Passes apply b (.after r p m) v s w u
  /-- A function in place of a type makes anything of its arguments. -/
  | call {sig : List (Parameter Value)} {f v w : Value} {args : List Value} {kw : Fields}
    {s t : Session} : argumentsOf sig v = .ok (args, kw) →
    (apply f args kw).exec s = (.ok w, t) → Passes apply b (.call sig f) v s w t
  /-- The validator of an annotation answers with what it makes of a value. -/
  | own {type v w : Value} {s t : Session} :
    (apply.ask (type.validator b) v).exec s = (.ok w, t) → Passes apply b (.own type) v s w t

/-- There are as many values as rules, and each value passes the rule in its place, one after
another. -/
inductive PassEach (apply : Caller) (b : Bool) :
    List Rule → List Value → Session → List Value → Session → Prop where
  /-- No values. -/
  | nil {s : Session} : PassEach apply b [] [] s [] s
  /-- A first value, and the others. -/
  | cons {r : Rule} {rs : List Rule} {v w : Value} {vs ws : List Value} {s t u : Session} :
    Passes apply b r v s w t → PassEach apply b rs vs t ws u →
    PassEach apply b (r :: rs) (v :: vs) s (w :: ws) u

/-- All entries pass, each key before its value, and what comes of a key can be one. -/
inductive PassEntries (apply : Caller) (b : Bool) :
    Rule → Rule → List (Value × Value) → Session → List (Value × Value) → Session → Prop where
  /-- No entries. -/
  | nil {rk rv : Rule} {s : Session} : PassEntries apply b rk rv [] s [] s
  /-- A first entry, and the others. -/
  | cons {rk rv : Rule} {k k' v v' : Value} {es fs : List (Value × Value)} {s t u x : Session} :
    Passes apply b rk k s k' t → Passes apply b rv v t v' u → k'.isHashable = true →
    PassEntries apply b rk rv es u fs x →
    PassEntries apply b rk rv ((k, v) :: es) s ((k', v') :: fs) x

end

/-! ### Parts without issues -/

section Parts

variable {apply : Caller} {b : Bool}

/-- Whether all refusals of a check have issues. -/
def Telling (check : Run Verdict) : Prop :=
  ∀ s is t, check.exec s = (.ok (.error is), t) → is ≠ []

theorem Rule.telling {r : Rule} (asks : r.AsksOnly apply.Tells) (v : Value) :
    Telling (r.apply apply b v) := fun _ _ _ refused => r.issues_ne_nil b asks refused

/-- There are no issues with some parts exactly if there is none with the first and none with the
rest. -/
theorem addPart_eq_nil {p : Place} {verdict : Verdict} {rest : List Issue × List Value}
    {ws : List Value} (telling : ∀ is, verdict = .error is → is ≠ []) :
    addPart p verdict rest = ([], ws) ↔
      ∃ w ws', verdict = .ok w ∧ rest = ([], ws') ∧ ws = w :: ws' := by
  obtain ⟨issues, others⟩ := rest
  cases verdict with
  | ok w =>
    simp only [addPart, Prod.mk.injEq, Except.ok.injEq]
    constructor
    · rintro ⟨rfl, rfl⟩
      exact ⟨w, others, rfl, ⟨rfl, rfl⟩, rfl⟩
    · rintro ⟨_, _, rfl, ⟨rfl, rfl⟩, rfl⟩
      exact ⟨rfl, rfl⟩
  | error is =>
    simp [addPart, telling is rfl]

/-- A first part that is checked by itself, before the others. -/
theorem exec_addPart {check : Run Verdict} (telling : Telling check) (p : Place)
    (others : Run (List Issue × List Value)) {s u : Session} {ws : List Value} :
    (do
      let verdict ← check
      let rest ← others
      return addPart p verdict rest : Run _).exec s = (.ok ([], ws), u) ↔
      ∃ w ws' t, check.exec s = (.ok (.ok w), t) ∧ others.exec t = (.ok ([], ws'), u) ∧
        ws = w :: ws' := by
  constructor
  · intro h
    obtain ⟨verdict, t, first, h⟩ := Run.exec_bind_eq_ok.mp h
    obtain ⟨rest, u', second, h⟩ := Run.exec_bind_eq_ok.mp h
    obtain ⟨accepted, rfl⟩ := Run.exec_pure_eq_ok.mp h
    have reasons (is : List Issue) (refused : verdict = .error is) : is ≠ [] := by
      rw [refused] at first
      exact telling s is t first
    obtain ⟨w, ws', rfl, rfl, rfl⟩ := (addPart_eq_nil reasons).mp accepted
    exact ⟨w, ws', t, first, second, rfl⟩
  · rintro ⟨w, ws', t, first, second, rfl⟩
    refine Run.exec_bind_eq_ok.mpr ⟨.ok w, t, first, ?_⟩
    exact Run.exec_bind_eq_ok.mpr ⟨([], ws'), u, second, rfl⟩

theorem passEach_nil {rs : List Rule} {s t : Session} {ws : List Value} :
    PassEach apply b rs [] s ws t ↔ rs = [] ∧ ws = [] ∧ t = s := by
  constructor
  · rintro ⟨⟩
    exact ⟨rfl, rfl, rfl⟩
  · rintro ⟨rfl, rfl, rfl⟩
    exact .nil

theorem passEach_cons {r : Rule} {rs : List Rule} {v : Value} {vs ws : List Value}
    {s u : Session} : PassEach apply b (r :: rs) (v :: vs) s ws u ↔
      ∃ w ws' t, Passes apply b r v s w t ∧ PassEach apply b rs vs t ws' u ∧ ws = w :: ws' := by
  constructor
  · rintro (_ | ⟨first, rest⟩)
    exact ⟨_, _, _, first, rest, rfl⟩
  · rintro ⟨w, ws', t, first, rest, rfl⟩
    exact .cons first rest

/-- Whether the checks that go well are those that pass a rule and make what has a property. -/
def Checks (apply : Caller) (b : Bool) (r : Rule) (H : Value → Prop)
    (check : Value → Run Verdict) : Prop :=
  ∀ v s w t, (check v).exec s = (.ok (.ok w), t) ↔ Passes apply b r v s w t ∧ H w

/-- All items of a list pass. -/
theorem applyItems_iff {r : Rule} {H : Value → Prop} {check : Value → Run Verdict}
    (telling : ∀ v, Telling (check v)) (checks : Checks apply b r H check) (i : Nat)
    (vs : List Value) {s t : Session} {ws : List Value} :
    (applyItems check i vs).exec s = (.ok ([], ws), t) ↔
      PassEach apply b (.replicate vs.length r) vs s ws t ∧ ∀ w ∈ ws, H w := by
  induction vs generalizing i s ws with
  | nil =>
    rw [applyItems, Run.exec_pure, List.length_nil, List.replicate_zero, passEach_nil]
    constructor
    · rintro ⟨⟩
      exact ⟨⟨rfl, rfl, rfl⟩, fun w hw => absurd hw List.not_mem_nil⟩
    · rintro ⟨⟨-, rfl, rfl⟩, -⟩
      rfl
  | cons v vs ih =>
    rw [applyItems, exec_addPart (telling v), List.length_cons, List.replicate_succ, passEach_cons]
    simp only [checks v, ih]
    constructor
    · rintro ⟨w, ws', u, ⟨first, hw⟩, ⟨rest, hws⟩, rfl⟩
      exact ⟨⟨w, ws', u, first, rest, rfl⟩, List.forall_mem_cons.mpr ⟨hw, hws⟩⟩
    · rintro ⟨⟨w, ws', u, first, rest, rfl⟩, h⟩
      obtain ⟨hw, hws⟩ := List.forall_mem_cons.mp h
      exact ⟨w, ws', u, ⟨first, hw⟩, ⟨rest, hws⟩, rfl⟩

/-- Each item of a tuple passes the rule in its place, where there are no more items than rules. -/
theorem applyFixed_iff (whole : Value) {rs : List Rule} (asks : AskOnly apply.Tells rs)
    (checks : ∀ r ∈ rs, Checks apply b r (fun _ => True) (r.apply apply b)) (i : Nat)
    (vs : List Value) {s t : Session} {ws : List Value} :
    vs.length ≤ rs.length ∧ (applyFixed apply b whole rs i vs).exec s = (.ok ([], ws), t) ↔
      PassEach apply b rs vs s ws t := by
  induction rs generalizing i vs s ws with
  | nil =>
    rw [applyFixed, Run.exec_pure, List.length_nil, Nat.le_zero, List.length_eq_zero_iff]
    constructor
    · rintro ⟨rfl, ⟨⟩⟩
      exact .nil
    · rintro ⟨⟩
      exact ⟨rfl, rfl⟩
  | cons r rs ih =>
    obtain ⟨first, others⟩ := List.forall_mem_cons.mp checks
    cases vs with
    | nil =>
      -- An item that is missing is an issue.
      rw [applyFixed, passEach_nil]
      constructor
      · rintro ⟨-, h⟩
        obtain ⟨rest, u, -, h⟩ := Run.exec_bind_eq_ok.mp h
        cases h
      · rintro ⟨⟨⟩, -⟩
    | cons v vs =>
      rw [applyFixed, exec_addPart (Rule.telling asks.1 v), passEach_cons, List.length_cons,
        List.length_cons, Nat.add_le_add_iff_right]
      simp only [← ih asks.2 others (i + 1) vs, first v, and_true]
      constructor
      · rintro ⟨short, w, ws', u, passed, rest, rfl⟩
        exact ⟨w, ws', u, passed, ⟨short, rest⟩, rfl⟩
      · rintro ⟨w, ws', u, passed, ⟨short, rest⟩, rfl⟩
        exact ⟨short, w, ws', u, passed, rest, rfl⟩

/-- A member of a set passes, and can be a member after that. -/
theorem Checks.member {r : Rule} (checks : Checks apply b r (fun _ => True) (r.apply apply b)) :
    Checks apply b r (fun w => w.isHashable = true)
      (fun v => asMember v <$> r.apply apply b v) := by
  intro v s w t
  have checks := checks v s w t
  rw [and_true] at checks
  rw [← checks, Run.exec_map]
  rcases (r.apply apply b v).exec s with ⟨e | is | x, u⟩
  · simp
  · simp [asMember]
  · cases hx : x.isHashable with
    | true =>
      simp only [asMember, hx, if_true, Prod.mk.injEq, Except.ok.injEq]
      constructor
      · rintro ⟨rfl, rfl⟩
        exact ⟨⟨rfl, rfl⟩, hx⟩
      · exact And.left
    | false =>
      simp only [asMember, hx, Bool.false_eq_true, if_false, Verdict.refuse, Prod.mk.injEq,
        Except.ok.injEq, reduceCtorEq, false_and, false_iff]
      rintro ⟨⟨rfl, -⟩, h⟩
      rw [hx] at h
      cases h

theorem telling_member {r : Rule} (asks : r.AsksOnly apply.Tells) (v : Value) :
    Telling (asMember v <$> r.apply apply b v) := by
  intro s is t h
  obtain ⟨verdict, u, checked, h⟩ : ∃ verdict u, (r.apply apply b v).exec s = (.ok verdict, u) ∧
      asMember v verdict = .error is := by
    rw [Run.exec_map] at h
    split at h
    · next verdict u checked => exact ⟨verdict, u, checked, Except.ok.inj (Prod.mk.inj h).1⟩
    · cases h
  cases verdict with
  | error found =>
    obtain rfl := Except.error.inj h
    exact r.issues_ne_nil b asks checked
  | ok x =>
    unfold asMember at h
    dsimp only at h
    split at h
    · cases h
    · exact Verdict.refuse_issues h

/-- All entries of a dictionary pass. -/
theorem applyEntries_iff {rk rv : Rule} (asksKey : rk.AsksOnly apply.Tells)
    (asksValue : rv.AsksOnly apply.Tells)
    (key : Checks apply b rk (fun _ => True) (rk.apply apply b))
    (value : Checks apply b rv (fun _ => True) (rv.apply apply b)) (es : List (Value × Value))
    {s t : Session} {fs : List (Value × Value)} :
    (applyEntries (rk.apply apply b) (rv.apply apply b) es).exec s = (.ok ([], fs), t) ↔
      PassEntries apply b rk rv es s fs t := by
  simp only [Checks, and_true] at key value
  induction es generalizing s fs with
  | nil =>
    constructor
    · rintro ⟨⟩
      exact .nil
    · rintro ⟨⟩
      rfl
  | cons e es ih =>
    obtain ⟨k, v⟩ := e
    rw [applyEntries]
    constructor
    · intro h
      obtain ⟨verdictKey, u, first, h⟩ := Run.exec_bind_eq_ok.mp h
      obtain ⟨verdictValue, x, second, h⟩ := Run.exec_bind_eq_ok.mp h
      cases verdictKey with
      | error is =>
        have reasons : is ≠ [] := rk.issues_ne_nil b asksKey first
        obtain ⟨rest, y, -, h⟩ := Run.exec_bind_eq_ok.mp h
        have none := congrArg Prod.fst (Run.exec_pure_eq_ok.mp h).1
        simp [Verdict.issues, reasons] at none
      | ok k' =>
        cases verdictValue with
        | error is =>
          have reasons : is ≠ [] := rv.issues_ne_nil b asksValue second
          obtain ⟨rest, y, -, h⟩ := Run.exec_bind_eq_ok.mp h
          have none := congrArg Prod.fst (Run.exec_pure_eq_ok.mp h).1
          simp [Verdict.issues, reasons] at none
        | ok v' =>
          cases hashable : k'.isHashable with
          | false => simp [hashable] at h
          | true =>
            simp only [hashable, Bool.not_true, Bool.false_eq_true, if_false] at h
            obtain ⟨⟨issues, rest⟩, y, others, h⟩ := Run.exec_bind_eq_ok.mp h
            cases h
            exact .cons ((key ..).mp first) ((value ..).mp second) hashable (ih.mp others)
    · rintro (_ | ⟨first, second, hashable, rest⟩)
      refine Run.exec_bind_eq_ok.mpr ⟨_, _, (key ..).mpr first, ?_⟩
      refine Run.exec_bind_eq_ok.mpr ⟨_, _, (value ..).mpr second, ?_⟩
      simp only [hashable, Bool.not_true, Bool.false_eq_true, if_false]
      exact Run.exec_bind_eq_ok.mpr ⟨_, _, ih.mpr rest, rfl⟩

end Parts

/-! ### Rules -/

/-- A list is checked only up to the first item that is too many, and then refused. -/
theorem withinLimit_of_few {vs : List Value} {most : Option Nat}
    (few : exceeds vs.length most = none) : withinLimit most vs = vs := by
  cases most with
  | none => rfl
  | some m =>
    simp only [exceeds, Option.filter_eq_none_iff, Option.some.injEq, decide_eq_true_eq,
      forall_eq', Nat.not_lt] at few
    exact List.take_of_length_le (Nat.le_succ_of_le few)

namespace Checks

variable {apply : Caller} {b : Bool}

theorem reading {r : Rule} {read : Value → Reading} (reads : ∀ v, r.reading? b v = some (read v))
    (checked : ∀ v, r.apply apply b v = pure (Verdict.ofReading v (read v)))
    (only : ∀ {v s w t}, Passes apply b r v s w t → r.reading? b v = some (.ok w) ∧ t = s) :
    Checks apply b r (fun _ => True) (r.apply apply b) := by
  intro v s w t
  rw [checked, Run.exec_pure, and_true]
  constructor
  · intro h
    cases hr : read v with
    | error c =>
      rw [hr] at h
      cases h
    | ok x =>
      rw [hr] at h
      cases h
      exact .read ((reads v).trans (congrArg some hr))
  · intro h
    obtain ⟨hw, rfl⟩ := only h
    rw [Option.some.inj ((reads v).symm.trans hw)]
    rfl

theorem ofParts {issues : List Issue} {whole w : Value} {s t : Session} :
    (pure (Verdict.ofParts issues whole) : Run Verdict).exec s = (.ok (.ok w), t) ↔
      issues = [] ∧ whole = w ∧ s = t := by
  rw [Run.exec_pure_eq_ok, Verdict.ofParts]
  cases issues <;> simp

theorem optional {r : Rule} (checks : Checks apply b r (fun _ => True) (r.apply apply b)) :
    Checks apply b (.optional r) (fun _ => True) ((Rule.optional r).apply apply b) := by
  intro v s w t
  rw [and_true]
  cases v with
  | null =>
    constructor
    · rintro ⟨⟩
      exact .nothing
    · intro h
      cases h with
      | read h => cases h
      | nothing => rfl
      | present h _ => exact absurd rfl h
  | _ =>
    rw [Rule.apply, checks, and_true]
    · constructor
      · exact fun h => .present nofun h
      · intro h
        cases h with
        | read h => cases h
        | present _ h => exact h
    · nofun

theorem list {r : Rule} (asks : r.AsksOnly apply.Tells)
    (checks : Checks apply b r (fun _ => True) (r.apply apply b)) (least most : Option Nat) :
    Checks apply b (.list r least most) (fun _ => True)
      ((Rule.list r least most).apply apply b) := by
  intro v s w t
  have each (vs ws : List Value) (t : Session) :
      (applyItems (r.apply apply b) 0 vs).exec s = (.ok ([], ws), t) ↔ _ :=
    applyItems_iff (Rule.telling asks) checks 0 vs
  rw [Rule.apply, and_true]
  constructor
  · intro h
    split at h
    · cases h
    · next vs found =>
      obtain ⟨⟨issues, ws⟩, u, checked, h⟩ := Run.exec_bind_eq_ok.mp h
      dsimp only at h
      split at h
      · cases h
      · next few =>
        split at h
        · cases h
        · next clean =>
          split at h
          · cases h
          · next enough =>
            obtain rfl : issues = [] := by simpa using clean
            rw [withinLimit_of_few few] at checked
            cases h
            exact .list found few enough ((each vs ws t).mp checked).1
  · intro h
    cases h with
    | read h => cases h
    | list found few enough passed =>
      split
      · next none => cases found.symm.trans none
      · next found' =>
        obtain rfl := Option.some.inj (found.symm.trans found')
        rw [withinLimit_of_few few]
        refine Run.exec_bind_eq_ok.mpr ⟨_, t, (each _ _ t).mpr ⟨passed, fun _ _ => trivial⟩, ?_⟩
        dsimp only
        rw [few]
        simp only [List.isEmpty_nil, Bool.not_true, Bool.false_eq_true, if_false, if_neg enough]
        rfl

/-- A container whose items are checked one by one, by `check`, and that is built anew. -/
theorem container {r whole : Rule} {H : Value → Prop} {check : Value → Run Verdict}
    (items : Value → Option (List Value)) {kind : Expected} (build : List Value → Value)
    (telling : ∀ v, Telling (check v)) (checks : Checks apply b r H check)
    (checked : ∀ v, whole.apply apply b v = match items v with
      | none => pure (.refuse (.mismatch kind) v)
      | some xs => do
        let parts ← applyItems check 0 xs
        return .ofParts parts.1 (build parts.2))
    (passes : ∀ v s w t, Passes apply b whole v s w t ↔ ∃ vs ws, items v = some vs ∧
      PassEach apply b (.replicate vs.length r) vs s ws t ∧ (∀ w ∈ ws, H w) ∧ w = build ws) :
    Checks apply b whole (fun _ => True) (whole.apply apply b) := by
  intro v s w t
  have each (vs ws : List Value) (t : Session) :
      (applyItems check 0 vs).exec s = (.ok ([], ws), t) ↔ _ := applyItems_iff telling checks 0 vs
  rw [checked, passes, and_true]
  cases items v with
  | none =>
    constructor
    · intro h
      cases h
    · rintro ⟨vs, ws, ⟨⟩, -⟩
  | some vs =>
    constructor
    · intro h
      obtain ⟨⟨issues, ws⟩, u, gone, h⟩ := Run.exec_bind_eq_ok.mp h
      obtain ⟨rfl, rfl, rfl⟩ := ofParts.mp h
      obtain ⟨passed, hws⟩ := (each vs ws u).mp gone
      exact ⟨vs, ws, rfl, passed, hws, rfl⟩
    · rintro ⟨_, ws, ⟨⟩, passed, hws, rfl⟩
      exact Run.exec_bind_eq_ok.mpr ⟨_, t, (each vs ws t).mpr ⟨passed, hws⟩, rfl⟩

theorem set {r : Rule} (asks : r.AsksOnly apply.Tells)
    (checks : Checks apply b r (fun _ => True) (r.apply apply b)) :
    Checks apply b (.set r) (fun _ => True) ((Rule.set r).apply apply b) := by
  refine container (setItems b) (fun ws => .set .fresh (distinct ws))
    (telling_member asks) checks.member
    (fun v => by rw [Rule.apply]; rfl) fun v s w t => ⟨fun h => ?_, ?_⟩
  · cases h with
    | read h => cases h
    | set found passed hashable => exact ⟨_, _, found, passed, hashable, rfl⟩
  · rintro ⟨vs, ws, found, passed, hashable, rfl⟩
    exact .set found passed hashable

theorem frozenset {r : Rule} (asks : r.AsksOnly apply.Tells)
    (checks : Checks apply b r (fun _ => True) (r.apply apply b)) :
    Checks apply b (.frozenset r) (fun _ => True) ((Rule.frozenset r).apply apply b) := by
  refine container (frozensetItems b) (fun ws => .frozenset .fresh (distinct ws))
    (telling_member asks) checks.member
    (fun v => by rw [Rule.apply]; rfl) fun v s w t => ⟨fun h => ?_, ?_⟩
  · cases h with
    | read h => cases h
    | frozenset found passed hashable => exact ⟨_, _, found, passed, hashable, rfl⟩
  · rintro ⟨vs, ws, found, passed, hashable, rfl⟩
    exact .frozenset found passed hashable

theorem variadic {r : Rule} (asks : r.AsksOnly apply.Tells)
    (checks : Checks apply b r (fun _ => True) (r.apply apply b)) :
    Checks apply b (.variadic r) (fun _ => True) ((Rule.variadic r).apply apply b) := by
  refine container (tupleItems b) (.tuple .fresh) (Rule.telling asks) checks
    (fun v => by rw [Rule.apply]; rfl) fun v s w t => ⟨fun h => ?_, ?_⟩
  · cases h with
    | read h => cases h
    | variadic found passed => exact ⟨_, _, found, passed, fun _ _ => trivial, rfl⟩
  · rintro ⟨vs, ws, found, passed, -, rfl⟩
    exact .variadic found passed

theorem fixed {rs : List Rule} (asks : AskOnly apply.Tells rs)
    (checks : ∀ r ∈ rs, Checks apply b r (fun _ => True) (r.apply apply b)) :
    Checks apply b (.fixed rs) (fun _ => True) ((Rule.fixed rs).apply apply b) := by
  intro v s w t
  have few {vs : List Value} :
      exceeds vs.length (some rs.length) = none ↔ vs.length ≤ rs.length := by
    simp [exceeds, Option.filter_eq_none_iff]
  rw [Rule.apply, and_true]
  constructor
  · intro h
    split at h
    · cases h
    · next vs found =>
      obtain ⟨⟨issues, ws⟩, u, checked, h⟩ := Run.exec_bind_eq_ok.mp h
      dsimp only at h
      split at h
      · cases h
      · next fit =>
        obtain ⟨rfl, rfl, rfl⟩ := ofParts.mp h
        exact .fixed found ((applyFixed_iff v asks checks 0 vs).mp ⟨few.mp fit, checked⟩)
  · intro h
    cases h with
    | read h => cases h
    | fixed found passed =>
      obtain ⟨fit, checked⟩ := (applyFixed_iff v asks checks 0 _).mpr passed
      split
      · next none => cases found.symm.trans none
      · next found' =>
        obtain rfl := Option.some.inj (found.symm.trans found')
        refine Run.exec_bind_eq_ok.mpr ⟨_, t, checked, ?_⟩
        dsimp only
        rw [few.mpr fit]
        rfl

theorem dict {rk rv : Rule} (asksKey : rk.AsksOnly apply.Tells)
    (asksValue : rv.AsksOnly apply.Tells)
    (key : Checks apply b rk (fun _ => True) (rk.apply apply b))
    (value : Checks apply b rv (fun _ => True) (rv.apply apply b)) :
    Checks apply b (.dict rk rv) (fun _ => True) ((Rule.dict rk rv).apply apply b) := by
  intro v s w t
  rw [and_true]
  constructor
  · intro h
    cases v with
    | dict l es =>
      obtain ⟨⟨issues, fs⟩, u, checked, h⟩ := Run.exec_bind_eq_ok.mp h
      obtain ⟨rfl, rfl, rfl⟩ := ofParts.mp h
      exact .dict ((applyEntries_iff asksKey asksValue key value es).mp checked)
    | _ => cases (Run.exec_pure_eq_ok.mp h).1
  · intro h
    cases h with
    | read h => cases h
    | dict passed =>
      exact Run.exec_bind_eq_ok.mpr
        ⟨_, t, (applyEntries_iff asksKey asksValue key value _).mpr passed, rfl⟩

theorem limited {r : Rule} (checks : Checks apply b r (fun _ => True) (r.apply apply b))
    (ls : List Limit) :
    Checks apply b (.limited r ls) (fun _ => True) ((Rule.limited r ls).apply apply b) := by
  intro v s w t
  simp only [Checks, and_true] at checks
  rw [Rule.apply, and_true]
  constructor
  · intro h
    obtain ⟨verdict, u, inner, h⟩ := Run.exec_bind_eq_ok.mp h
    cases verdict with
    | error is => cases h
    | ok x =>
      dsimp only at h
      split at h
      · cases h
      · next quiet =>
        cases h
        exact .limited ((checks ..).mp inner) quiet
  · intro h
    cases h with
    | read h => cases h
    | limited inner quiet =>
      refine Run.exec_bind_eq_ok.mpr ⟨.ok w, t, (checks ..).mpr inner, ?_⟩
      dsimp only
      rw [quiet]
      rfl

theorem after {r : Rule} (checks : Checks apply b r (fun _ => True) (r.apply apply b))
    (p m : Value) :
    Checks apply b (.after r p m) (fun _ => True) ((Rule.after r p m).apply apply b) := by
  intro v s w t
  simp only [Checks, and_true] at checks
  rw [Rule.apply, and_true]
  constructor
  · intro h
    obtain ⟨verdict, u, inner, h⟩ := Run.exec_bind_eq_ok.mp h
    cases verdict with
    | error is => cases h
    | ok x =>
      dsimp only at h
      rw [exec_narrow] at h
      split at h
      · next answer t' asked =>
        split at h
        · next truthy =>
          cases h
          exact .after ((checks ..).mp inner) asked truthy
        · split at h <;> cases h
      · split at h <;> cases h
  · intro h
    cases h with
    | read h => cases h
    | after inner asked truthy =>
      refine Run.exec_bind_eq_ok.mpr ⟨.ok w, _, (checks ..).mpr inner, ?_⟩
      dsimp only
      rw [exec_narrow, asked]
      exact if_pos truthy

theorem call (sig : List (Parameter Value)) (f : Value) :
    Checks apply b (.call sig f) (fun _ => True) ((Rule.call sig f).apply apply b) := by
  intro v s w t
  rw [Rule.apply, and_true]
  constructor
  · intro h
    split at h
    · cases h
    · next args kw given =>
      rw [Run.exec_map] at h
      split at h
      · next called =>
        cases h
        exact .call given called
      · cases h
  · intro h
    cases h with
    | read h => cases h
    | call given called =>
      rw [given]
      dsimp only
      rw [Run.exec_map, called]

theorem own (type : Value) :
    Checks apply b (.own type) (fun _ => True) ((Rule.own type).apply apply b) := by
  intro v s w t
  rw [Rule.apply, and_true, exec_consult_eq_ok]
  constructor
  · exact .own
  · intro h
    cases h with
    | read h => cases h
    | own answered => exact answered

end Checks

section Rules

variable {apply : Caller} {b : Bool}

mutual

/-- The checks by a rule that go well are those that pass it. By recursion on the rule. -/
theorem Rule.checks : ∀ r : Rule, r.AsksOnly apply.Tells →
    Checks apply b r (fun _ => True) (r.apply apply b)
  | .any, _ => by
    intro v s w t
    rw [Rule.apply, and_true, Run.exec_pure_eq_ok]
    constructor
    · rintro ⟨⟨⟩, rfl⟩
      exact .any
    · intro h
      cases h with
      | read h => cases h
      | any => exact ⟨rfl, rfl⟩
  | .null, _ | .bool, _ | .int, _ | .float, _ | .text, _ | .bytes, _ | .callable, _ =>
    .reading (fun _ => rfl) (fun _ => rfl) fun h => by
      cases h with
      | read h => exact ⟨h, rfl⟩
  | .point, _ => by
    intro v s w t
    rw [Rule.apply, and_true, Run.exec_pure_eq_ok]
    constructor
    · rintro ⟨h, rfl⟩
      exact .point h
    · intro h
      cases h with
      | read h => cases h
      | point h => exact ⟨h, rfl⟩
  | .unresolved, _ => by
    intro v s w t
    rw [and_true]
    constructor
    · intro h
      cases h
    · intro h
      cases h with
      | read h => cases h
  | .optional r, asks => (checks r asks).optional
  | .list r least most, asks => .list (r := r) asks (checks r asks) least most
  | .set r, asks => (checks r asks).set asks
  | .frozenset r, asks => (checks r asks).frozenset asks
  | .variadic r, asks => (checks r asks).variadic asks
  | .fixed rs, asks => .fixed asks (checksAll rs asks)
  | .dict rk rv, asks => .dict asks.1 asks.2 (checks rk asks.1) (checks rv asks.2)
  | .limited r ls, asks => (checks r asks).limited ls
  | .after r p m, asks => (checks r asks.1).after p m
  | .call sig f, _ => .call sig f
  | .own type, _ => .own type

theorem Rule.checksAll : ∀ rs : List Rule, AskOnly apply.Tells rs →
    ∀ r ∈ rs, Checks apply b r (fun _ => True) (r.apply apply b)
  | [], _ => fun _ hr => absurd hr List.not_mem_nil
  | r :: rs, asks => List.forall_mem_cons.mpr ⟨checks r asks.1, checksAll rs asks.2⟩

end

/-- **What comes out of a check.** A check by a rule gives a value exactly if the value that is
checked passes the rule and the other is made of it. -/
theorem Rule.passes_iff {r : Rule} (asks : r.AsksOnly apply.Tells) {v w : Value} {s t : Session} :
    (r.apply apply b v).exec s = (.ok (.ok w), t) ↔ Passes apply b r v s w t := by
  rw [r.checks asks, and_true]

end Rules

end CallContract
