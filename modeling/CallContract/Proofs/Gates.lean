import CallContract.Call
import CallContract.Proofs.Running

/-!
# Calls and their gates

A checked function is called through a pipeline: the gate of the arguments, the implementation,
the gate of the result. `Contract.pipeline` is that pipeline with any computation in the place of
the implementation. Because it is one function of that computation, to know what comes of it for
every computation is to know whether, how often and with what the implementation is run:

* if the outcome is the same for all of them, the implementation is never run (`Refuses`);
* if the outcome is made from one run of the computation with certain arguments in a certain
  session, the implementation is run once, there and with these (`Enters`).

`Conduct` has one clause for each way that a call can take, and `callWithin_checked_conduct` says
that calls take these ways, whatever the implementation calls in turn. Calls that give a keyword by
the name `self` take none of them.
-/

namespace CallContract

/-- What runs when the implementation is called with values by position and by name. -/
abbrev Body := List Value → Keywords → Run Value

/-! ### One gate -/

/-- A fault as it leaves a gate: a failure names the boundary and the function, any other fault is
left as it is. A name that cannot be written is a fault of its own. -/
def Fault.leaving (b : Boundary) (name : Value) : Fault → Fault
  | .invalid f => match name.tell with
    | .ok _ => .invalid (f.withContext b name)
    | .error e => e
  | fault => fault

/-- The session after a fault has left a gate: there is a record of a failure in the journal. -/
def Session.afterRefusal (b : Boundary) (name : Value) (fault : Fault) (s : Session) : Session :=
  match fault, name.tell with
  | .invalid f, .ok shown =>
    { s with
      journal := s.journal.add ⟨Contract.source,
        "[VALIDATION] " ++ b.word ++ " check failed for " ++ shown ++ ": " ++ f.text⟩ }
  | _, _ => s

/-- A failure that leaves a gate has the issues that the check found. -/
theorem Fault.leaving_invalid (b : Boundary) {name : Value} {shown : String}
    (told : name.tell = .ok shown) (f : Failure) :
    (Fault.invalid f).leaving b name = .invalid (f.withContext b name) := by
  simp only [leaving, told]

namespace Contract

section Gate

variable {apply : Caller} {b : Boundary} {name schema v w : Value} {s t : Session} {e : Fault}

/-- What the check of a gate accepts, the gate hands on. -/
theorem exec_gate_of_ok (h : (validate apply schema v none).exec s = (.ok w, t)) :
    (gate apply b name schema v).exec s = (.ok w, t) := by
  rw [gate, Run.exec_tryCatch, h]

/-- What ends the check of a gate ends the gate. -/
theorem exec_gate_of_error (h : (validate apply schema v none).exec s = (.error e, t)) :
    (gate apply b name schema v).exec s =
      (.error (e.leaving b name), t.afterRefusal b name e) := by
  rw [gate, Run.exec_tryCatch, h]
  cases e with
  | invalid f =>
    unfold Fault.leaving Session.afterRefusal
    cases name.tell <;> rfl
  | _ => rfl

/-- A failure with which a gate ends is that of its check, with the boundary and the name put in. -/
theorem exec_gate_eq_invalid {f : Failure}
    (failed : (gate apply b name schema v).exec s = (.error (.invalid f), t)) :
    ∃ f' u, (validate apply schema v none).exec s = (.error (.invalid f'), u) ∧
      f = f'.withContext b name := by
  rcases checked : (validate apply schema v none).exec s with ⟨e | w, u⟩
  · rw [exec_gate_of_error checked] at failed
    cases e with
    | invalid f' =>
      cases told : name.tell with
      | ok shown =>
        rw [Fault.leaving_invalid b told] at failed
        cases failed
        exact ⟨f', u, rfl, rfl⟩
      | error e =>
        obtain rfl := Value.tell_eq_error told
        rw [Fault.leaving, told] at failed
        cases failed
    | _ => cases failed
  · rw [exec_gate_of_ok checked] at failed
    cases failed

end Gate

/-! ### The pipeline -/

/-- A call through the gates of a contract, with `body` in the place of the implementation. -/
def pipeline (apply : Caller) (c : Value) (face : Face) (args : List Value) (kw : Keywords)
    (body : Body) : Run Value := do
  if kw.has "self" then throw .wrongType
  let mode ← Run.lift (c.ask "mode")
  let (args, kw) ←
    if ← Run.lift (mode.enforces .args) then gateArgs apply c face args kw else pure (args, kw)
  let result ← body args kw
  if ← Run.lift (mode.enforces .result) then
    let schema ← Run.lift (c.ask Boundary.result.schemaName)
    gate apply .result face.name schema result
  else return result

/-- A call of a checked function is the pipeline around the call of its implementation. -/
theorem call_eq_pipeline (apply : Caller) (c implementation : Value) (face : Face)
    (args : List Value) (kw : Keywords) :
    call apply c implementation face args kw =
      pipeline apply c face args kw (apply implementation) := rfl

@[simp] theorem ask_mode (c : Contract) : (Value.contract c).ask "mode" = .ok c.mode.toValue := rfl

@[simp] theorem ask_args (c : Contract) :
    (Value.contract c).ask Boundary.args.schemaName = .ok c.args.toValue := rfl

@[simp] theorem ask_returns (c : Contract) :
    (Value.contract c).ask Boundary.result.schemaName = .ok c.returns.toValue := rfl

section Stages

variable (apply : Caller) (c : Contract) (m : Mode) (face : Face)

/-- The way to the implementation: what reaches it. -/
def inward (args : List Value) (kw : Keywords) : Run (List Value × Keywords) :=
  if m.enforces .args then gateArgs apply (.contract c) face args kw else pure (args, kw)

/-- The way back from the implementation: what the caller gets. -/
def outward (result : Value) : Run Value :=
  if m.enforces .result then gate apply .result face.name c.returns.toValue result else pure result

variable {c m}

/-- The stages of the pipeline of a contract whose mode is known. -/
theorem pipeline_eq_stages (known : c.mode = .known m) {args : List Value} {kw : Keywords}
    (noSelf : kw.has "self" = false) (body : Body) :
    pipeline apply (.contract c) face args kw body =
      (do
        let passed ← inward apply c m face args kw
        let result ← body passed.1 passed.2
        outward apply c m face result) := by
  unfold pipeline inward outward
  cases hargs : m.enforces .args <;> cases hresult : m.enforces .result <;>
    simp [noSelf, known, ModeChoice.toValue, hargs, hresult]

/-- So a call of a checked function goes through these stages. -/
theorem callWithin_eq_stages (depth id : Nat) (implementation : Value) (face : Face)
    (args : List Value) (known : c.mode = .known m) {kw : Keywords}
    (noSelf : kw.has "self" = false) :
    callWithin (depth + 1) (.function (.checked id (.contract c) implementation face)) args kw =
      (do
        let passed ← inward (callWithin depth) c m face args kw
        let result ← callWithin depth implementation passed.1 passed.2
        outward (callWithin depth) c m face result) := by
  rw [callWithin_succ, Value.callBy, Function.callBy, call_eq_pipeline,
    pipeline_eq_stages _ _ known noSelf]

variable {apply face} {args : List Value} {kw : Keywords} {s t : Session} {e : Fault} {w : Value}

theorem exec_inward_unbound (on : m.enforces .args = true) {f : BindingFault}
    (unbound : bindKeywords face.signature args kw = .error f) :
    (inward apply c m face args kw).exec s = (.error (.binding f), s) := by
  simp only [inward, on, if_true, gateArgs, unbound, Run.exec_throw]

theorem exec_inward_refused (on : m.enforces .args = true) {xs : List Value} {ks : Keywords}
    (bound : bindKeywords face.signature args kw = .ok (xs, ks))
    (refused : (validate apply c.args.toValue (.tuple .fresh xs) none).exec s = (.error e, t)) :
    (inward apply c m face args kw).exec s =
      (.error (e.leaving .args face.name), t.afterRefusal .args face.name e) := by
  simp only [inward, on, if_true, gateArgs, bound, ask_args, Run.lift_ok, pure_bind]
  exact Run.exec_bind_of_error (exec_gate_of_error refused)

theorem exec_inward_accepted (on : m.enforces .args = true) {xs : List Value} {ks : Keywords}
    (bound : bindKeywords face.signature args kw = .ok (xs, ks))
    (accepted : (validate apply c.args.toValue (.tuple .fresh xs) none).exec s = (.ok w, t)) :
    (inward apply c m face args kw).exec s =
      match w.iterate? with
      | some ys => (.ok (ys, ks), t)
      | none => (.error .wrongType, t) := by
  simp only [inward, on, if_true, gateArgs, bound, ask_args, Run.lift_ok, pure_bind]
  rw [Run.exec_bind_of_ok (exec_gate_of_ok accepted)]
  cases w.iterate? <;> rfl

theorem exec_outward_open (off : m.enforces .result = false) :
    (outward apply c m face w).exec s = (.ok w, s) := by
  simp only [outward, off, Bool.false_eq_true, if_false, Run.exec_pure]

theorem outward_gated (on : m.enforces .result = true) :
    outward apply c m face w = gate apply .result face.name c.returns.toValue w := by
  simp only [outward, on, if_true]

end Stages

/-! ### The ways of a call -/

/-- An outcome in which the implementation has no part: it is the same whatever is in its place. -/
def Refuses (outcome : Body → Except Fault Value × Session) (e : Fault) (s : Session) : Prop :=
  ∀ body, outcome body = (.error e, s)

/-- An outcome made from one run of the implementation with the arguments `xs` and the keywords
`ks` in the session `t`. -/
structure Enters (apply : Caller) (c : Contract) (m : Mode) (face : Face)
    (outcome : Body → Except Fault Value × Session) (xs : List Value) (ks : Keywords)
    (t : Session) : Prop where
  /-- A fault of the implementation is the fault of the call, and nothing runs after it. -/
  fault : ∀ body e u, (body xs ks).exec t = (.error e, u) → outcome body = (.error e, u)
  /-- A result that is not gated is the result of the call. -/
  result : m.enforces .result = false → ∀ body r u, (body xs ks).exec t = (.ok r, u) →
    outcome body = (.ok r, u)
  /-- For a result that is gated and accepted, the caller gets the checked value. -/
  accepted : m.enforces .result = true → ∀ body r u w v, (body xs ks).exec t = (.ok r, u) →
    (validate apply c.returns.toValue r none).exec u = (.ok w, v) → outcome body = (.ok w, v)
  /-- What ends the check of the result ends the call, after the implementation has run. -/
  refused : m.enforces .result = true → ∀ body r u e v, (body xs ks).exec t = (.ok r, u) →
    (validate apply c.returns.toValue r none).exec u = (.error e, v) →
    outcome body = (.error (e.leaving .result face.name), v.afterRefusal .result face.name e)

/-- What comes of a call in the session `s`, as far as the contract and the arguments decide it. -/
structure Conduct (apply : Caller) (c : Contract) (m : Mode) (face : Face) (args : List Value)
    (kw : Keywords) (s : Session) (outcome : Body → Except Fault Value × Session) : Prop where
  /-- Arguments that do not fit the signature never reach the implementation. -/
  unbound : m.enforces .args = true → ∀ f, bindKeywords face.signature args kw = .error f →
    Refuses outcome (.binding f) s
  /-- Neither do arguments that the gate refuses. -/
  refused : m.enforces .args = true → ∀ xs ks e t,
    bindKeywords face.signature args kw = .ok (xs, ks) →
    (validate apply c.args.toValue (.tuple .fresh xs) none).exec s = (.error e, t) →
    Refuses outcome (e.leaving .args face.name) (t.afterRefusal .args face.name e)
  /-- Arguments that the gate accepts reach it as the checked value has them. -/
  accepted : m.enforces .args = true → ∀ xs ks w ys t,
    bindKeywords face.signature args kw = .ok (xs, ks) →
    (validate apply c.args.toValue (.tuple .fresh xs) none).exec s = (.ok w, t) →
    w.iterate? = some ys → Enters apply c m face outcome ys ks t
  /-- A checked value that is no container cannot be handed on. -/
  stray : m.enforces .args = true → ∀ xs ks w t,
    bindKeywords face.signature args kw = .ok (xs, ks) →
    (validate apply c.args.toValue (.tuple .fresh xs) none).exec s = (.ok w, t) →
    w.iterate? = none → Refuses outcome .wrongType t
  /-- Without a gate the arguments reach the implementation as the caller gave them. -/
  ungated : m.enforces .args = false → Enters apply c m face outcome args kw s

/-- An outcome in which the implementation has no part is not made from a run of it. -/
theorem Refuses.not_enters {apply : Caller} {c : Contract} {m : Mode} {face : Face}
    {outcome : Body → Except Fault Value × Session} {e : Fault} {s : Session}
    (refuses : Refuses outcome e s) (xs : List Value) (ks : Keywords) (t : Session) :
    ¬ Enters apply c m face outcome xs ks t := by
  intro enters
  -- Two implementations that fail in different ways would have to make the same outcome.
  have deep := enters.fault (fun _ _ => throw .tooDeep) .tooDeep t rfl
  have wrong := enters.fault (fun _ _ => throw .wrongType) .wrongType t rfl
  rw [refuses] at deep wrong
  simp only [Prod.mk.injEq, Except.error.injEq] at deep wrong
  exact Fault.noConfusion (deep.1.symm.trans wrong.1)

/-- The implementation is run once, so there is one way to say with what and where. -/
theorem Enters.unique {apply : Caller} {c : Contract} {m : Mode} {face : Face}
    {outcome : Body → Except Fault Value × Session} {xs ys : List Value} {ks ls : Keywords}
    {t u : Session} (enters : Enters apply c m face outcome xs ks t)
    (enters' : Enters apply c m face outcome ys ls u) : xs = ys ∧ ks = ls ∧ t = u := by
  classical
  -- An implementation that fails in one way on the first arguments and in another on all others.
  let body : Body := fun xs' ks' =>
    if xs' = xs ∧ ks' = ks then throw .tooDeep else throw .wrongType
  have first : outcome body = (.error .tooDeep, t) := enters.fault body .tooDeep t (by simp [body])
  by_cases same : ys = xs ∧ ls = ks
  · obtain ⟨rfl, rfl⟩ := same
    have second := enters'.fault body .tooDeep u (by simp [body])
    exact ⟨rfl, rfl, (Prod.mk.inj (first.symm.trans second)).2⟩
  · have second := enters'.fault body .wrongType u (by simp [body, same])
    exact Fault.noConfusion (Except.error.inj (Prod.mk.inj (first.symm.trans second)).1)

section Ways

variable {apply : Caller} {c : Contract} {m : Mode} {face : Face} {args : List Value}
  {kw : Keywords} {s : Session}

/-- What reaches the end of the way in enters the implementation. -/
theorem enters_of_inward (known : c.mode = .known m) (noSelf : kw.has "self" = false)
    {xs : List Value} {ks : Keywords} {t : Session}
    (passed : (inward apply c m face args kw).exec s = (.ok (xs, ks), t)) :
    Enters apply c m face
      (fun body => (pipeline apply (.contract c) face args kw body).exec s) xs ks t := by
  have entered (body : Body) : (pipeline apply (.contract c) face args kw body).exec s =
      (body xs ks >>= outward apply c m face).exec t := by
    rw [pipeline_eq_stages apply face known noSelf, Run.exec_bind_of_ok passed]
  refine ⟨fun body e u ran => ?_, fun off body r u ran => ?_, fun on body r u w v ran ok => ?_,
    fun on body r u e v ran bad => ?_⟩
  · rw [entered, Run.exec_bind_of_error ran]
  · rw [entered, Run.exec_bind_of_ok ran, exec_outward_open off]
  · rw [entered, Run.exec_bind_of_ok ran, outward_gated on]
    exact exec_gate_of_ok ok
  · rw [entered, Run.exec_bind_of_ok ran, outward_gated on]
    exact exec_gate_of_error bad

/-- What ends the way in ends the call before the implementation. -/
theorem refuses_of_inward (known : c.mode = .known m) (noSelf : kw.has "self" = false) {e : Fault}
    {t : Session} (ended : (inward apply c m face args kw).exec s = (.error e, t)) :
    Refuses (fun body => (pipeline apply (.contract c) face args kw body).exec s) e t := by
  intro body
  show (pipeline apply (.contract c) face args kw body).exec s = (.error e, t)
  rw [pipeline_eq_stages apply face known noSelf, Run.exec_bind_of_error ended]

/-- A call that gives no keyword by the name `self` takes one of the ways. -/
theorem pipeline_conduct (known : c.mode = .known m) (noSelf : kw.has "self" = false) :
    Conduct apply c m face args kw s
      (fun body => (pipeline apply (.contract c) face args kw body).exec s) where
  unbound on f unbound := refuses_of_inward known noSelf (exec_inward_unbound on unbound)
  refused on xs ks e t bound bad :=
    refuses_of_inward known noSelf (exec_inward_refused on bound bad)
  accepted on xs ks w ys t bound ok unpacked := by
    refine enters_of_inward known noSelf ?_
    rw [exec_inward_accepted on bound ok, unpacked]
  stray on xs ks w t bound ok unpacked := by
    refine refuses_of_inward known noSelf ?_
    rw [exec_inward_accepted on bound ok, unpacked]
  ungated off := enters_of_inward known noSelf (by
    rw [inward, off]
    rfl)

/-- The keyword `self` is taken by the checked function, and ends the call. -/
theorem pipeline_refuses_self (self : kw.has "self" = true) (v : Value) :
    Refuses (fun body => (pipeline apply v face args kw body).exec s) .wrongType s := by
  intro body
  simp only [pipeline, self, if_true]
  rfl

/-- What enters the implementation is what reaches the end of the way in. -/
theorem inward_of_enters (known : c.mode = .known m) {xs : List Value} {ks : Keywords} {t : Session}
    (enters : Enters apply c m face
      (fun body => (pipeline apply (.contract c) face args kw body).exec s) xs ks t) :
    (inward apply c m face args kw).exec s = (.ok (xs, ks), t) := by
  cases self : kw.has "self" with
  | true => exact absurd enters ((pipeline_refuses_self self _).not_enters xs ks t)
  | false =>
    rcases passed : (inward apply c m face args kw).exec s with ⟨e | ⟨ys, ls⟩, u⟩
    · exact absurd enters ((refuses_of_inward known self passed).not_enters xs ks t)
    · obtain ⟨rfl, rfl, rfl⟩ := (enters_of_inward known self passed).unique enters
      rfl

/-- The way in through the gate: what reaches its end is what the gate makes of the arguments. -/
theorem exec_inward_eq_ok (on : m.enforces .args = true) {ys : List Value} {ks : Keywords}
    {t : Session} (passed : (inward apply c m face args kw).exec s = (.ok (ys, ks), t)) :
    ∃ xs w, bindKeywords face.signature args kw = .ok (xs, ks) ∧
      (validate apply c.args.toValue (.tuple .fresh xs) none).exec s = (.ok w, t) ∧
      w.iterate? = some ys := by
  cases bound : bindKeywords face.signature args kw with
  | error f =>
    rw [exec_inward_unbound on bound] at passed
    cases passed
  | ok given =>
    obtain ⟨xs, ks'⟩ := given
    rcases checked : (validate apply c.args.toValue (.tuple .fresh xs) none).exec s with ⟨e | w, u⟩
    · rw [exec_inward_refused on bound checked] at passed
      cases passed
    · rw [exec_inward_accepted on bound checked] at passed
      cases unpacked : w.iterate? with
      | none =>
        rw [unpacked] at passed
        cases passed
      | some zs =>
        rw [unpacked] at passed
        cases passed
        exact ⟨xs, w, rfl, checked, unpacked⟩

/-- What comes out of the way back through the gate is what the gate makes of the result. -/
theorem exec_outward_eq_ok (on : m.enforces .result = true) {r w : Value} {t : Session}
    (passed : (outward apply c m face r).exec s = (.ok w, t)) :
    (validate apply c.returns.toValue r none).exec s = (.ok w, t) := by
  rw [outward_gated on] at passed
  rcases checked : (validate apply c.returns.toValue r none).exec s with ⟨e | w', u⟩
  · rw [exec_gate_of_error checked] at passed
    cases passed
  · rw [exec_gate_of_ok checked] at passed
    exact passed

end Ways

/-- **The conduct of calls.** Calls of a checked function, with calls nested as deep as they may be,
are the pipeline around the call of its implementation. It takes the ways of `Conduct`, unless a
keyword has the name `self`: then the implementation is not run, whatever the contract says. -/
theorem callWithin_checked_conduct (depth id : Nat) (c : Contract) (m : Mode)
    (known : c.mode = .known m) (implementation : Value) (face : Face) (args : List Value)
    (kw : Keywords) (s : Session) :
    let outcome := fun body =>
      (pipeline (callWithin depth) (.contract c) face args kw body).exec s
    (callWithin (depth + 1) (.function (.checked id (.contract c) implementation face)) args
        kw).exec s = outcome (callWithin depth implementation) ∧
      (kw.has "self" = false → Conduct (callWithin depth) c m face args kw s outcome) ∧
      (kw.has "self" = true → Refuses outcome .wrongType s ∧
        ∀ xs ks t, ¬ Enters (callWithin depth) c m face outcome xs ks t) := by
  intro outcome
  refine ⟨?_, pipeline_conduct known, fun self => ?_⟩
  · rw [callWithin_succ, Value.callBy, Function.callBy, call_eq_pipeline]
  · have refuses : Refuses outcome .wrongType s := pipeline_refuses_self self _
    exact ⟨refuses, refuses.not_enters⟩

/-- A contract for one text and a whole number made of it. -/
def textLength (m : Mode) : Contract :=
  { empty with
    args := Schema.tupleOf [.type .text], returns := promote (.type .int), mode := .known m }

theorem callWithin_checked_conduct_textLength :
    let len : Value := .function (.builtin .len)
    let f (m : Mode) : Value := .function (.checked 0 (.contract (textLength m)) len len.face)
    let s := { Session.start with active := some (Settings.standard.toValue .fresh) }
    let outcome (m : Mode) (args : List Value) := fun body =>
      (pipeline (callWithin 1) (.contract (textLength m)) len.face args [] body).exec s
    (∀ m, (textLength m).mode = .known m) ∧
      -- The gate of the arguments refuses a number and lets a text pass.
      (∃ failure t, failure.boundary = some .args ∧
        Refuses (outcome .args [.int 1]) (.invalid failure) t ∧
        ((callWithin 2 (f .args) [.int 1] []).exec s).1 = .error (.invalid failure)) ∧
      (∃ t, Enters (callWithin 1) (textLength .args) .args len.face (outcome .args [.text "ab"])
        [.text "ab"] [] t) ∧
      -- The gate of the result lets the length pass, and it refuses a text.
      ((callWithin 2 (f .ret) [.text "ab"] []).exec s).1 = .ok (.int 2) ∧
      ∃ failure, failure.boundary = some .result ∧
        (outcome .ret [.text "ab"] fun xs _ => pure xs.head!).1 = .error (.invalid failure) := by
  intro len f s outcome
  have conduct (m : Mode) (args : List Value) :=
    callWithin_checked_conduct 1 0 (textLength m) m rfl len len.face args [] s
  have told : len.face.name.tell = .ok "len" := rfl
  have refuses := ((conduct .args [.int 1]).2.1 rfl).refused rfl _ _ _ _ rfl rfl
  rw [Fault.leaving_invalid .args told] at refuses
  have enters := ((conduct .ret [.text "ab"]).2.1 rfl).ungated rfl
  have refused := enters.refused rfl (fun xs _ => pure xs.head!) _ _ _ _ rfl rfl
  rw [Fault.leaving_invalid .result told] at refused
  refine ⟨fun _ => rfl, ⟨_, _, rfl, refuses, ?_⟩,
    ⟨_, ((conduct .args [.text "ab"]).2.1 rfl).accepted rfl _ _ _ _ _ rfl rfl rfl⟩, ?_,
    _, rfl, congrArg Prod.fst refused⟩
  · exact congrArg Prod.fst ((conduct .args [.int 1]).1.trans (refuses _))
  · exact congrArg Prod.fst ((conduct .ret [.text "ab"]).1.trans
      (enters.accepted rfl _ _ _ _ _ rfl rfl))

/-- A contract that gates nothing. -/
def ungated : Contract := { empty with mode := .known .none }

/-- A function that collects its keywords and gives them back. -/
def collector : Value :=
  .function (.defined Label.firstFree
    { kind := .function, name := "h", ownName := "h", path := "h"
      parameters := [required "kw" .keywords], body := .var "kw", scope := [], doc := .null
      home := .text homeName, annotations := .dict .fresh [], attributes := [] })

/-- A function that takes all keywords takes one by the name `self`. Around it, a contract that
gates nothing ends the call before the function is run. -/
theorem collector_self_not_entered :
    ((CallContract.call collector [] [("self", .int 1)]).exec Session.start).1.isOk = true ∧
      (CallContract.call (.function (.checked 0 (.contract ungated) collector collector.face)) []
        [("self", .int 1)]).exec Session.start = (.error .wrongType, Session.start) ∧
      ¬ Conduct CallContract.call ungated .none collector.face [] [("self", .int 1)] Session.start
        (fun body => (pipeline CallContract.call (.contract ungated) collector.face []
          [("self", .int 1)] body).exec Session.start) := by
  refine ⟨rfl, rfl, fun conduct => ?_⟩
  have returned := (conduct.ungated rfl).result rfl (fun _ _ => pure .null) .null Session.start rfl
  have refused : (pipeline CallContract.call (.contract ungated) collector.face []
      [("self", .int 1)] (fun _ _ => pure .null)).exec Session.start =
        (.error .wrongType, Session.start) := rfl
  cases refused.symm.trans returned

end Contract

end CallContract
