import CallContract.Proofs.Heedless
import CallContract.Proofs.History
import CallContract.Proofs.Rebinding

/-!
# Contracts that cannot be noticed

A checked function whose contract gates nothing is called as its implementation is. One whose gates
accept everything still binds the keywords of a call and looks up adapters, but the call of its
implementation comes to the same for all that: binding puts it in other words by which the
implementation is entered alike (`Value.Takes`), and calls heed nothing of what an open gate leaves
behind (`callWithin_heedless`).
-/

namespace CallContract

/-! ### Open gates -/

/-- Whether open gates let everything through: the settings tell how strict checks are, and the open
schemas in store have adapters that accept everything. -/
structure Session.Ready (s : Session) : Prop where
  strict : ∃ b, (Settings.activeStrict.exec s).1 = .ok b
  stores : AdapterStore.Open s.adapters

theorem Session.Ready.of_outlook {s t : Session} (ready : s.Ready) (outlook : t.outlook = s.outlook)
    (stores : AdapterStore.Open t.adapters) : t.Ready := by
  obtain ⟨b, strict⟩ := ready.strict
  obtain ⟨answer, exec⟩ := Settings.activeStrict_asks
  refine ⟨⟨b, ?_⟩, stores⟩
  rw [exec] at strict ⊢
  rw [outlook]
  exact strict

/-- A check by an open schema accepts every value. It may load the settings, and puts an adapter
into the store if there is none for such a schema. -/
theorem exec_validate_of_open (apply : Caller) {schema : Value}
    (hopen : (promote schema).isOpen = true) {s : Session} (ready : s.Ready) (v : Value) :
    ∃ (t : Session) (a : Adapter), (validate apply schema v none).exec s = (.ok v, t) ∧
      t.shown = s.shown ∧ t.outlook = s.outlook ∧ a.rule = .any ∧
      t.adapters = AdapterStore.opened (promote schema) a s.adapters := by
  obtain ⟨a, new, made, found, accepts, rule⟩ := Schema.exec_adapter_of_open hopen ready.stores
  obtain ⟨answer, exec⟩ := Settings.activeStrict_asks
  obtain ⟨b, strict⟩ := ready.strict
  -- Looking up the adapter does not change what the settings tell.
  let u := s.withStore (.opened (promote schema) new s.adapters) made
  have asked : Settings.activeStrict.exec u = (.ok b, (Settings.active.exec u).2) := by
    rw [exec] at strict ⊢
    rw [Session.outlook_withStore]
    exact congrArg (·, _) strict
  obtain ⟨active, loads, journal, session, outlook⟩ := Settings.active_session u
  refine ⟨(Settings.active.exec u).2, new, ?_, ?_, ?_, rule, ?_⟩
  · rw [validate_eq_judge, Run.exec_bind_of_ok found, Rule.judge, accepts]
    exact Run.exec_bind_of_ok asked
  · rw [session]
    rfl
  · rw [outlook, Session.outlook_withStore]
  · rw [session]
    rfl

/-- A heedless run comes to the same before and after an open gate, and what programs can see is the
same after it. Then open gates still let everything through. -/
theorem Run.Heedless.after_gate {α : Type} {m : Run α} (heedless : m.Heedless) {s t : Session}
    (ready : s.Ready) (gate : t = s ∨ (s.Roomy → s.Alike t) ∧ (m.exec s).2.Roomy) :
    (m.exec t).1 = (m.exec s).1 ∧ (m.exec t).2.shown = (m.exec s).2.shown ∧
      (m.exec t).2.Ready := by
  have onward := heedless.onward s
  rcases gate with rfl | ⟨alike, roomy⟩
  · exact ⟨rfl, rfl, ready.of_outlook onward.outlook (onward.stores ready.stores)⟩
  · obtain ⟨result, sessions⟩ := heedless.alike s t (alike (onward.roomy roomy)) roomy
    refine ⟨result, sessions.shown.symm, ready.of_outlook ?_ sessions.stores.right⟩
    exact sessions.outlook.symm.trans onward.outlook

/-! ### Calls in other words -/

/-- Whether no signature is stated among attributes. -/
def Fields.Unstated (fields : Fields) : Prop :=
  fields.lookup signatureName = none ∧ fields.lookup wrappedName = none

theorem statedSignature_of_unstated {fields : Fields} (h : Fields.Unstated fields)
    (own : Option Signature) : statedSignature own fields = own := by
  obtain ⟨stated, wrapped⟩ := h
  have unwrapped : wrappedSignature fields = none := by
    clear stated
    induction fields with
    | nil => rw [wrappedSignature]
    | cons e fields ih =>
      obtain ⟨n, v⟩ := e
      rw [List.lookup_cons] at wrapped
      cases same : wrappedName == n with
      | true => simp [same] at wrapped
      | false =>
        rw [same] at wrapped
        have other : (n == wrappedName) = false := by
          rw [beq_eq_false_iff_ne] at same ⊢
          exact same.symm
        rw [wrappedSignature, other]
        exact ih wrapped
  rw [statedSignature, stated, unwrapped]
  rfl

/-- Whether a value takes a call: it is a function whose parameters the arguments fit, or a partial
application of one, and its attributes do not state another signature. Where there is no keyword or
no signature, nothing is asked. -/
inductive Value.Takes (args : List Value) (kw : Keywords) : Value → Prop where
  /-- A call by position. -/
  | byPosition {v : Value} : kw = [] → Takes args kw v
  /-- A call of something that has no signature. -/
  | unsigned {v : Value} : v.signature? = none → Takes args kw v
  /-- A call of a definition: a function or an object that is called like one. -/
  | defined {id : Nat} {d : Definition} : Fields.Unstated d.attributes →
    Signature.Proper d.parameters → (enter d.parameters args kw).isSome = true →
    Takes args kw (.function (.defined id d))
  /-- A call of a partial application. -/
  | applied {id : Nat} {inner : Value} {fields : Fields} : Fields.Unstated fields →
    Takes args kw inner → Takes args kw (.function (.applied id inner fields))
  /-- A call of a function that exists from the start. No name is given twice. -/
  | builtin {b : Builtin} {sig : Signature} : b.signature? = some sig →
    (enter sig args kw).isSome = true → (kw.map Prod.fst).Nodup →
    Takes args kw (.function (.builtin b))
  /-- A call of a predicate. -/
  | predicate {name : String} {body : Expr} {fields : Fields} : Fields.Unstated fields →
    (enter Predicate.parameters args kw).isSome = true →
    Takes args kw (.function (.predicate name body fields))

/-- Whether a keyword has the name of a parameter that is given by position only and gets nothing.
-/
def Value.Clashes (v : Value) (n : Nat) (kw : Keywords) : Prop :=
  ∃ sig, v.signature? = some sig ∧ sig.Clashes n kw

/-- Of the functions that exist from the start and have a signature, only the sum takes a keyword.
-/
theorem Builtin.takes_cases {b : Builtin} {sig : Signature} (hsig : b.signature? = some sig)
    {args : List Value} {kw : Keywords} (entered : (enter sig args kw).isSome = true)
    (distinct : (kw.map Prod.fst).Nodup) :
    kw = [] ∨ ∃ v start, b = .sum ∧ args = [v] ∧ kw = [("start", start)] := by
  unfold enter at entered
  dsimp only at entered
  cases b with
  | len | abs =>
    obtain rfl := Option.some.inj hsig
    split_ifs at entered with refused
    · simp at entered
    · left
      simpa [surplus, required, ParameterKind.byName] using refused
  | max => cases hsig
  | sum =>
    obtain rfl := Option.some.inj hsig
    split_ifs at entered with refused
    · simp at entered
    · have names : ∀ e ∈ kw, e.1 = "start" := by
        simpa [surplus, required, ParameterKind.byName, @eq_comm _ "start"] using refused
      rcases kw with _ | ⟨⟨n, start⟩, _ | ⟨⟨n', start'⟩, rest⟩⟩
      · exact .inl rfl
      · obtain rfl : n = "start" := names _ (List.mem_cons_self ..)
        right
        rcases args with _ | ⟨v, _ | ⟨w, rest⟩⟩
        · simp [fill, required] at entered
        · exact ⟨v, start, rfl, rfl, rfl⟩
        · simp [fill, required, Keywords.has] at entered
      · have first : n = "start" := names _ (List.mem_cons_self ..)
        have second : n' = "start" := names _ (List.mem_cons_of_mem _ (List.mem_cons_self ..))
        simp [first, second] at distinct

/-- What is entered with the same variables is called with the same effect. An object takes the
place of the keyword `self`. -/
theorem Definition.call_congr {d : Definition} {args xs : List Value} {kw ks : Keywords}
    (same : enter d.parameters xs ks = enter d.parameters args kw)
    (self : d.kind = .object → ks.has "self" = kw.has "self") (apply : Caller) :
    d.call apply xs ks = d.call apply args kw := by
  unfold Definition.call
  rw [same]
  by_cases object : d.kind = .object
  · rw [self object]
  · simp only [object, false_and, if_false]

theorem Predicate.call_congr {args xs : List Value} {kw ks : Keywords}
    (same : enter parameters xs ks = enter parameters args kw) (apply : Caller) (name : String)
    (body : Expr) : call apply name body xs ks = call apply name body args kw := by
  unfold call
  rw [same]

/-- Calls that do the same at every depth are the same: nothing is done with calls that are nested
too deeply. -/
theorem callWithin_congr {v : Value} {args xs : List Value} {kw ks : Keywords}
    (same : ∀ depth, v.callBy (callWithin depth) xs ks = v.callBy (callWithin depth) args kw)
    (depth : Nat) : callWithin depth v xs ks = callWithin depth v args kw := by
  cases depth with
  | zero => rfl
  | succ depth => exact same depth

theorem signature?_defined (id : Nat) {d : Definition} (h : Fields.Unstated d.attributes) :
    (Value.function (.defined id d)).signature? = some d.parameters := by
  obtain ⟨⟩ := d
  rw [Value.signature?, Function.signature?, Definition.signature?]
  exact statedSignature_of_unstated h _

theorem signature?_applied (id : Nat) (inner : Value) {fields : Fields}
    (h : Fields.Unstated fields) :
    (Value.function (.applied id inner fields)).signature? = inner.signature? := by
  rw [Value.signature?, Function.signature?]
  exact statedSignature_of_unstated h _

theorem signature?_predicate (name : String) (body : Expr) {fields : Fields}
    (h : Fields.Unstated fields) :
    (Value.function (.predicate name body fields)).signature? = some Predicate.parameters := by
  rw [Value.signature?, Function.signature?]
  exact statedSignature_of_unstated h _

/-- A call that a value takes can be bound, unless keywords clash, and the value does the same when
it is called with what binding gives back. -/
theorem Value.Takes.rebound {v : Value} {args : List Value} {kw : Keywords}
    (takes : v.Takes args kw) (noSelf : kw.has "self" = false)
    (free : ¬ v.Clashes args.length kw) :
    ∃ xs ks, Contract.bindKeywords v.signature? args kw = .ok (xs, ks) ∧
      ∀ depth, callWithin depth v xs ks = callWithin depth v args kw := by
  have bound {sig : Signature} (proper : sig.Proper) (entered : (enter sig args kw).isSome = true)
      (free : ¬ sig.Clashes args.length kw) :
      ∃ xs ks, Contract.bindKeywords (some sig) args kw = .ok (xs, ks) ∧
        enter sig xs ks = enter sig args kw ∧ ks.has "self" = kw.has "self" := by
    obtain ⟨fields, entered⟩ := Option.isSome_iff_exists.mp entered
    obtain ⟨xs, ks, bound, again⟩ := Contract.bindKeywords_of_enter proper entered free
    refine ⟨xs, ks, bound, again.trans entered.symm, ?_⟩
    rw [noSelf]
    exact Keywords.Among.not_has (Contract.bindKeywords_among bound) noSelf
  induction takes with
  | byPosition none =>
    subst none
    exact ⟨args, [], rfl, fun _ => rfl⟩
  | unsigned none =>
    rw [none]
    exact ⟨args, kw, by cases kw <;> rfl, fun _ => rfl⟩
  | @defined id d unstated proper entered =>
    have signature := signature?_defined id unstated
    rw [signature]
    obtain ⟨xs, ks, bound, same, self⟩ :=
      bound proper entered fun clash => free ⟨_, signature, clash⟩
    have called (apply : Caller) := Definition.call_congr same (fun _ => self) apply
    exact ⟨xs, ks, bound, callWithin_congr fun depth => called _⟩
  | @applied id inner fields unstated _ ih =>
    have signature := signature?_applied id inner unstated
    rw [signature]
    have innerFree : ¬ inner.Clashes args.length kw := by
      rintro ⟨sig, h, clash⟩
      exact free ⟨sig, signature.trans h, clash⟩
    obtain ⟨xs, ks, bound, same⟩ := ih innerFree
    exact ⟨xs, ks, bound, callWithin_congr fun depth => same depth⟩
  | @predicate name body fields unstated entered =>
    have signature := signature?_predicate name body unstated
    rw [signature]
    have proper : Signature.Proper Predicate.parameters :=
      ⟨⟨List.pairwise_singleton _ _, List.nodup_singleton _⟩, Nat.zero_le 1⟩
    obtain ⟨xs, ks, bound, same, -⟩ :=
      bound proper entered fun clash => free ⟨_, signature, clash⟩
    exact ⟨xs, ks, bound, callWithin_congr fun depth => Predicate.call_congr same _ _ _⟩
  | @builtin b sig signature entered distinct =>
    rcases b.takes_cases signature entered distinct with rfl | ⟨v, start, rfl, rfl, rfl⟩
    · exact ⟨args, [], rfl, fun _ => rfl⟩
    · rw [Value.signature?, Function.signature?]
      exact ⟨[v, start], [], rfl, callWithin_congr fun depth => rfl⟩

/-! ### Calls through open gates -/

namespace Contract

variable {c : Contract} {m : Mode} {f : Value} {args : List Value} {kw : Keywords} {s : Session}

/-- What comes through an open gate of the arguments calls the implementation as the arguments
would. The sessions before and after the gate are alike. -/
theorem exec_inward_of_open (apply : Caller) (hopen : c.args.isOpen = true) (ready : s.Ready)
    (takes : f.Takes args kw) (noSelf : kw.has "self" = false)
    (free : m.enforces .args = true → ¬ f.Clashes args.length kw) :
    ∃ xs ks t, (inward apply c m f.face args kw).exec s = (.ok (xs, ks), t) ∧
      (∀ depth, callWithin depth f xs ks = callWithin depth f args kw) ∧
      (t = s ∨ m.enforces .args = true ∧ (s.Roomy → s.Alike t)) := by
  cases on : m.enforces .args with
  | false =>
    refine ⟨args, kw, s, ?_, fun _ => rfl, .inl rfl⟩
    rw [inward, on]
    rfl
  | true =>
    obtain ⟨xs, ks, bound, same⟩ := takes.rebound noSelf (free on)
    have accepts := Schema.isOpen_promote hopen
    obtain ⟨t, a, checked, shown, outlook, rule, stores⟩ :=
      exec_validate_of_open apply accepts ready (.tuple .fresh xs)
    refine ⟨xs, ks, t, exec_inward_accepted on bound checked, same, .inr ⟨rfl, fun room => ?_⟩⟩
    refine ⟨shown.symm, outlook.symm, ?_⟩
    rw [stores]
    exact ready.stores.opened accepts rule room

/-- What comes back through an open gate is the result. -/
theorem exec_outward_of_open (apply : Caller) (face : Face) (hopen : c.returns.isOpen = true)
    (ready : s.Ready) (r : Value) :
    ∃ t, (outward apply c m face r).exec s = (.ok r, t) ∧ t.shown = s.shown := by
  cases on : m.enforces .result with
  | false => exact ⟨s, exec_outward_open on, rfl⟩
  | true =>
    obtain ⟨t, a, checked, shown, -⟩ :=
      exec_validate_of_open apply (Schema.isOpen_promote hopen) ready r
    refine ⟨t, ?_, shown⟩
    rw [outward_gated on]
    exact exec_gate_of_ok checked

/-- **Contracts that gate nothing cannot be noticed.** A checked function whose mode enforces
nothing is called exactly as its implementation is. One whose schemas accept everything comes to the
same result or fault as its implementation, with the same trace, and whatever else programs can see
of the session is the same as well. This is so for calls that the implementation takes, in sessions
in which the settings can be loaded; if the arguments are gated, as long as there is room in the
store of adapters and no keyword has the name of a parameter that is given by position only and gets
nothing. Keywords by the name `self` are left out. -/
theorem callWithin_ungated (depth id : Nat) (c : Contract) (m : Mode) (known : c.mode = .known m)
    (f : Value) (args : List Value) (kw : Keywords) (noSelf : kw.has "self" = false) :
    let checked := Value.function (.checked id (.contract c) f f.face)
    (m = .none → callWithin (depth + 1) checked args kw = callWithin depth f args kw) ∧
    (c.args.isOpen = true → c.returns.isOpen = true → f.Takes args kw →
      ∀ s : Session, s.Ready →
      let direct := (callWithin depth f args kw).exec s
      (m.enforces .args = true → ¬ f.Clashes args.length kw ∧ direct.2.Roomy) →
      let called := (callWithin (depth + 1) checked args kw).exec s
      called.1 = direct.1 ∧ called.2.trace = direct.2.trace ∧
        called.2.shown = direct.2.shown) := by
  intro checked
  have stages := callWithin_eq_stages depth id f f.face args known noSelf
  constructor
  · rintro rfl
    rw [stages]
    exact bind_pure (callWithin depth f args kw)
  · intro hargs hreturns takes s ready direct gated called
    obtain ⟨xs, ks, t, passed, same, alike⟩ := exec_inward_of_open (callWithin depth) hargs ready
      takes noSelf fun on => (gated on).1
    -- The implementation comes to the same after the gate as before it.
    obtain ⟨result, shown, again⟩ := (callWithin_heedless depth f args kw).after_gate ready
      (alike.imp_right fun ⟨on, alike⟩ => ⟨alike, (gated on).2⟩)
    have ran : called =
        (callWithin depth f args kw >>= outward (callWithin depth) c m f.face).exec t := by
      show (callWithin (depth + 1) checked args kw).exec s = _
      rw [stages, Run.exec_bind_of_ok passed, same]
    obtain ⟨result, shown⟩ : called.1 = direct.1 ∧ called.2.shown = direct.2.shown := by
      rcases hf : (callWithin depth f args kw).exec t with ⟨e | r, u⟩ <;>
        rw [hf] at result shown again
      · rw [ran, Run.exec_bind_of_error hf]
        exact ⟨result, shown⟩
      · obtain ⟨w, back, unseen⟩ := exec_outward_of_open (m := m) (callWithin depth) f.face
          hreturns again r
        rw [ran, Run.exec_bind_of_ok hf, back]
        exact ⟨result, unseen.trans shown⟩
    exact ⟨result, Session.trace_of_shown shown, shown⟩

/-- A contract that accepts everything. -/
def accepting (m : Mode) : Contract := { empty with args := .anything, mode := .known m }

/-- A function with one parameter that is given by position or not at all, which collects keywords;
it gives both back. -/
def gatherer : Value :=
  .function (.defined Label.firstFree
    { kind := .function, name := "h", ownName := "h", path := "h"
      parameters := [⟨"x", .positional, some (.int 0)⟩, required "kw" .keywords]
      body := .tuple [.var "x", .var "kw"], scope := [], doc := .null, home := .text homeName
      annotations := .dict .fresh [], attributes := [] })

theorem gatherer_signature : gatherer.signature? =
    some [⟨"x", .positional, some (.int 0)⟩, required "kw" .keywords] := by
  rw [gatherer, Value.signature?, Function.signature?, Definition.signature?_plain _ rfl]

theorem callWithin_ungated_gatherer :
    let checked := Value.function
      (.checked 0 (.contract (accepting .both)) gatherer gatherer.face)
    let s := { Session.start with active := some strictSettings }
    let direct := (callWithin 1 gatherer [.int 5] [("x", .int 2)]).exec s
    let called := (callWithin 2 checked [.int 5] [("x", .int 2)]).exec s
    direct.1.isOk = true ∧ direct.2.trace.length = 1 ∧ called.1 = direct.1 ∧
      called.2.trace = direct.2.trace := by
  intro checked s direct called
  have takes : gatherer.Takes [.int 5] [("x", .int 2)] :=
    .defined ⟨rfl, rfl⟩ ⟨⟨by decide, by decide⟩, by decide⟩ rfl
  have ready : s.Ready := ⟨⟨true, rfl⟩, .nil⟩
  have free : ¬ gatherer.Clashes 1 [("x", .int 2)] := by
    rintro ⟨sig, signature, p, hp, kind, -⟩
    obtain rfl := Option.some.inj (gatherer_signature.symm.trans signature)
    obtain rfl : p = required "kw" .keywords := by simpa using hp
    cases kind
  have roomy : direct.2.Roomy := by
    show 0 + 1 < adapterLimit
    decide
  obtain ⟨result, trace, -⟩ := (callWithin_ungated 1 0 (accepting .both) .both rfl gatherer
    [.int 5] [("x", .int 2)] rfl).2 rfl rfl takes s ready fun _ => ⟨free, roomy⟩
  exact ⟨rfl, rfl, result, trace⟩

/-- What is left out above can be noticed. The checked function takes the keyword `self` itself, and
a keyword with the name of a parameter that is given by position only cannot be bound. -/
theorem keywords_noticed :
    let fails (f : Value) (c : Contract) (kw : Keywords) (e : Fault) :=
      ((CallContract.call f [] kw).exec Session.start).1.isOk = true ∧
        ((CallContract.call (.function (.checked 0 (.contract c) f f.face)) [] kw).exec
          Session.start).1 = .error e
    fails collector ungated [("self", .int 1)] .wrongType ∧
      fails gatherer (accepting .args) [("x", .int 2)] (.binding (.positionalByName "x")) := by
  refine ⟨⟨rfl, rfl⟩, rfl, ?_⟩
  have unbound : bindKeywords gatherer.face.signature [] [("x", .int 2)] =
      .error (.positionalByName "x") := by
    rw [Value.face, gatherer_signature]
    rfl
  show ((callWithin (2999 + 1) _ [] _).exec Session.start).1 = _
  rw [callWithin_eq_stages _ _ _ _ _ rfl rfl,
    Run.exec_bind_of_error (exec_inward_unbound rfl unbound)]

end Contract

end CallContract
