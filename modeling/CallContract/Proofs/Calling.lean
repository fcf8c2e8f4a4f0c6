import CallContract.Call
import CallContract.Proofs.History
import CallContract.Proofs.Linking

/-!
# What goes over from calls to calls

A call does what the things do that it calls in turn, and beyond that only what needs no calls. So a
relation between runs that goes over to what is put together from them (`Linking`) holds of all
calls as soon as it holds of those that are nested too deeply (`Linking.callWithin`). This module
walks over all sorts of calls once; what holds of all of them follows by naming a relation.
-/

namespace CallContract

namespace Linking

variable {R : (α : Type) → Run α → Run α → Prop} (link : Linking R)

section Parts

include link

/-! ### Checks -/

theorem relates : Run.Relates R := ⟨link.pure, link.throw, link.bind⟩

theorem strictness (strict : Option Bool) : R _ (strictness strict) (strictness strict) := by
  cases strict with
  | some b => exact link.pure b
  | none => exact link.step .strict

/-! ### Functions that exist from the start -/

theorem greatestBy {key key' : Value → Run Value} (h : ∀ v, R _ (key v) (key' v))
    (best : Value × Value) (xs : List Value) :
    R _ (greatestBy key best xs) (greatestBy key' best xs) := by
  induction xs generalizing best with
  | nil => exact link.pure _
  | cons x xs ih =>
    refine link.bind (h x) fun k => link.bind (link.lift _) fun less => ?_
    split
    · exact ih _
    · exact ih _

theorem greatest {key key' : Value → Run Value} (h : ∀ v, R _ (key v) (key' v))
    (default : Option Value) (xs : List Value) :
    R _ (greatest key default xs) (greatest key' default xs) := by
  cases xs with
  | nil => exact link.require _ _
  | cons x xs => exact link.bind (h x) fun k => link.greatestBy h _ xs

theorem numberFields (fields : Fields) : R _ (numberFields fields) (numberFields fields) :=
  link.mapM (fun _ => link.bind (link.step (.number _)) fun _ => link.pure _) fields

end Parts

variable {a b : Caller}

include link

theorem narrow (calls : ∀ f args kw, R Value (a f args kw) (b f args kw))
    (p m v w : Value) : R _ (narrow a p m v w) (narrow b p m v w) := by
  unfold CallContract.narrow
  refine link.bind (link.tryCatch ?_ (fun e => ?_) rfl) fun answer => ?_
  · exact link.map _ (calls p [w] [])
  · split
    · exact link.pure _
    · exact link.throw _
  · split
    · exact link.pure _
    · split
      · exact link.pure _
      · split
        · exact link.pure _
        · exact link.throw _

theorem consult (calls : ∀ f args kw, R Value (a f args kw) (b f args kw)) (p v : Value) :
    R _ (consult a p v) (consult b p v) := by
  refine link.tryCatch (link.map _ (calls p [v] [])) (fun e => ?_) rfl
  split
  · exact link.pure _
  · exact link.throw _

theorem callsRelated (calls : ∀ f args kw, R Value (a f args kw) (b f args kw)) :
    CallsRelated R a b (fun _ => True) fun _ => True :=
  ⟨fun p _ => link.narrow calls p, fun _ f _ _ => calls f, fun _ _ _ _ => link.consult calls _⟩

/-- A check by a rule does what the predicates, functions and validators do that it calls. -/
theorem rule (calls : ∀ f args kw, R Value (a f args kw) (b f args kw)) (strict : Bool) (r : Rule)
    (v : Value) : R _ (r.apply a strict v) (r.apply b strict v) :=
  link.relates.rule (link.callsRelated calls) strict r r.each_true r.asksOnly_true v

section Checks

variable (calls : ∀ f args kw, R Value (a f args kw) (b f args kw))

include calls

theorem validate (schema v : Value) (strict : Option Bool) :
    R _ (validate a schema v strict) (validate b schema v strict) := by
  have judged (r : Rule) : R _ (r.judge a strict v) (r.judge b strict v) := by
    refine link.bind (link.strictness strict) fun strict => ?_
    refine link.bind (link.rule calls strict r v) fun verdict => ?_
    split
    · exact link.pure _
    · exact link.throw _
  have split (apply : Caller) : CallContract.validate apply schema v strict =
      Adapter.rule <$> (promote schema).adapter >>= fun r => r.judge apply strict v := by
    rw [validate_eq_judge, bind_map_left]
  rw [split, split]
  exact link.bind (link.step (.rule _)) judged

theorem check (schema v : Value) (strict : Option Bool) :
    R _ (check a schema v strict) (check b schema v strict) := by
  unfold CallContract.check attempt
  refine link.map _ (link.tryCatch (link.map _ (link.validate calls schema v strict)) ?_ rfl)
  intro e
  split
  · exact link.pure _
  · exact link.throw _

/-! ### Calls of checked functions -/

theorem gate (boundary : Boundary) (name schema v : Value) :
    R _ (Contract.gate a boundary name schema v) (Contract.gate b boundary name schema v) := by
  refine link.tryCatch (link.validate calls schema v none) (fun e => ?_) rfl
  split
  · exact link.bind (link.lift _) fun _ => link.bind (link.step (.record _ _)) fun _ => link.throw _
  · exact link.throw _

theorem gateArgs (c : Value) (face : Face) (args : List Value) (kw : Keywords) :
    R _ (Contract.gateArgs a c face args kw) (Contract.gateArgs b c face args kw) := by
  unfold Contract.gateArgs
  split
  · exact link.throw _
  · refine link.bind (link.lift _) fun schema => ?_
    refine link.bind (link.gate calls _ _ schema _) fun gated => ?_
    exact link.bind (link.require _ _) fun xs => link.pure _

theorem outward (c mode result : Value) (face : Face) :
    R Value (do
        if ← Run.lift (mode.enforces .result) then
          let schema ← Run.lift (c.ask Boundary.result.schemaName)
          Contract.gate a .result face.name schema result
        else return result)
      (do
        if ← Run.lift (mode.enforces .result) then
          let schema ← Run.lift (c.ask Boundary.result.schemaName)
          Contract.gate b .result face.name schema result
        else return result) := by
  refine link.bind (link.lift _) fun enforced => ?_
  split
  · exact link.bind (link.lift _) fun schema => link.gate calls _ _ schema _
  · exact link.pure _

theorem call (c implementation : Value) (face : Face) (args : List Value) (kw : Keywords) :
    R _ (Contract.call a c implementation face args kw)
      (Contract.call b c implementation face args kw) := by
  unfold Contract.call
  dsimp only
  split
  · rw [Run.throw_bind, Run.throw_bind]
    exact link.throw _
  · refine link.bind (link.lift _) fun mode => link.bind (link.lift _) fun enforced => ?_
    split
    · refine link.bind (link.gateArgs calls c face args kw) fun passed => ?_
      exact link.bind (calls implementation _ _) fun result => link.outward calls c mode result face
    · refine link.bind (link.pure _) fun passed => ?_
      exact link.bind (calls implementation _ _) fun result => link.outward calls c mode result face

end Checks

/-! ### Expressions -/

mutual

/-- An expression does what the functions do that it calls. -/
theorem expression (calls : ∀ f args kw, R Value (a f args kw) (b f args kw))
    (scope : Scope) : ∀ e : Expr, R _ (e.eval a scope) (e.eval b scope)
  | .var _ => link.require _ _
  | .const t => link.term [] t
  | .function f => link.function scope f
  | .list es => link.bind (expressions calls scope es) fun _ => link.pure _
  | .tuple es => link.bind (expressions calls scope es) fun _ => link.pure _
  | .cond test yes no => by
    rw [Expr.eval, Expr.eval]
    refine link.bind (expression calls scope test) fun t => ?_
    split
    · exact expression calls scope yes
    · exact expression calls scope no
  | .raise _ _ => link.throw _
  | .check s e => by
    refine link.bind (link.schema [] s) fun schema => ?_
    refine link.bind (expression calls scope e) fun v => ?_
    exact link.bind (link.check calls schema v none) fun _ => link.pure _
  | .validate s e => by
    refine link.bind (link.schema [] s) fun schema => ?_
    exact link.bind (expression calls scope e) fun v => link.validate calls schema v none
  | .call f es => by
    refine link.bind (expression calls scope f) fun f => ?_
    exact link.bind (expressions calls scope es) fun args => calls f args []
  | .map items f => by
    refine link.bind (expression calls scope items) fun items => ?_
    refine link.bind (expression calls scope f) fun f => link.bind (link.require _ _) fun xs => ?_
    exact link.bind (link.mapM (fun x => calls f [x] []) xs) fun _ => link.pure _
  | .fold items f start => by
    refine link.bind (expression calls scope items) fun items => ?_
    refine link.bind (expression calls scope f) fun f => ?_
    refine link.bind (expression calls scope start) fun start => ?_
    refine link.bind (link.require _ _) fun xs => ?_
    exact link.foldlM (fun acc x => calls f [acc, x] []) start xs
  | .binary op x y => by
    refine link.bind (expression calls scope x) fun v => ?_
    exact link.bind (expression calls scope y) fun w => link.lift _
  | .not e => link.bind (expression calls scope e) fun _ => link.pure _
  | .len e => link.bind (expression calls scope e) fun _ => link.lift _
  | .str e => link.bind (expression calls scope e) fun _ =>
    link.bind (link.lift _) fun _ => link.pure _

theorem expressions (calls : ∀ f args kw, R Value (a f args kw) (b f args kw))
    (scope : Scope) : ∀ es : List Expr, R _ (evalAll a scope es) (evalAll b scope es)
  | [] => link.pure _
  | e :: es => link.bind (expression calls scope e) fun _ =>
    link.bind (expressions calls scope es) fun _ => link.pure _

end

/-! ### Functions -/

section Functions

variable (calls : ∀ f args kw, R Value (a f args kw) (b f args kw))

include calls

theorem callMax (args : List Value) (kw : Keywords) :
    R _ (callMax a args kw) (callMax b args kw) := by
  unfold CallContract.callMax
  dsimp only
  split
  · rw [Run.throw_bind, Run.throw_bind]
    exact link.throw _
  · split
    · refine link.bind (link.require _ _) fun xs => link.greatest (fun x => ?_) _ xs
      split
      · exact link.pure x
      · exact link.pure x
      · exact calls _ [x] []
    · refine link.greatest (fun x => ?_) none _
      split
      · exact link.pure x
      · exact link.pure x
      · exact calls _ [x] []
    · exact link.throw _

theorem callBuiltin (f : Builtin) (args : List Value) (kw : Keywords) :
    R _ (f.call a args kw) (f.call b args kw) := by
  unfold Builtin.call
  split
  · exact link.lift _
  · exact link.lift _
  · exact link.lift _
  · exact link.lift _
  · exact link.lift _
  · exact link.callMax calls args kw
  · exact link.throw _

theorem callDefinition (d : Definition) (args : List Value) (kw : Keywords) :
    R _ (d.call a args kw) (d.call b args kw) := by
  have entered (bound : Fields) : R Value
      (do
        let bound ← CallContract.numberFields bound
        Run.enter d.name bound
        d.body.eval a (bound ++ d.scope))
      (do
        let bound ← CallContract.numberFields bound
        Run.enter d.name bound
        d.body.eval b (bound ++ d.scope)) := by
    refine link.bind (link.numberFields bound) fun bound => ?_
    exact link.bind (link.step (.enter _ _)) fun _ => link.expression calls _ d.body
  unfold Definition.call
  dsimp only
  split
  · rw [Run.throw_bind, Run.throw_bind]
    exact link.throw _
  · refine link.bind (link.require _ _) fun bound => ?_
    split
    · exact link.bind (link.step .freshId) fun id => link.pure _
    · exact entered bound

theorem callPredicate (name : String) (body : Expr) (args : List Value) (kw : Keywords) :
    R _ (Predicate.call a name body args kw) (Predicate.call b name body args kw) := by
  refine link.bind (link.require _ _) fun bound => ?_
  refine link.bind (link.numberFields bound) fun bound => ?_
  exact link.bind (link.step (.enter _ _)) fun _ => link.expression calls bound body

theorem instantiate (fields : Fields) (args : List Value) (kw : Keywords) :
    R _ (Family.instantiate a fields args kw) (Family.instantiate b fields args kw) := by
  refine link.bind (link.lift _) fun (record, kw) => link.bind (link.lift _) fun record => ?_
  refine link.bind (link.require _ _) fun factory => link.bind (link.lift _) fun name => ?_
  exact link.bind (link.step (.record _ _)) fun _ => calls factory [record] []

theorem callFunction (f : Function) (args : List Value) (kw : Keywords) :
    R _ (f.callBy a args kw) (f.callBy b args kw) := by
  cases f with
  | defined id d => exact link.callDefinition calls d args kw
  | applied id inner fields => exact calls inner args kw
  | builtin f => exact link.callBuiltin calls f args kw
  | predicate name body fields => exact link.callPredicate calls name body args kw
  | checked id c implementation face => exact link.call calls c implementation face args kw
  | generic id fields => exact link.instantiate calls fields args kw
  | factory id name named result fields => exact link.produce result args kw

/-- A call does what the calls do that it makes in turn. -/
theorem callBy : ∀ (v : Value) (args : List Value) (kw : Keywords),
    R _ (v.callBy a args kw) (v.callBy b args kw)
  | .function f, args, kw => link.callFunction calls f args kw
  | .type t, args, kw => by cases t <;> exact link.lift _
  | .form l f xs, args, kw => by
    cases f with
    | marked =>
      cases xs with
      | nil => exact link.throw _
      | cons inner xs => exact callBy inner args kw
    | validator strict =>
      rcases Value.callBy_validator l strict xs args kw with ⟨checked, v, asked⟩ | refused
      · rw [asked, asked]
        exact link.relates.validateBy (link.callsRelated calls) (fun _ _ => trivial) checked
          strict v
      · rw [refused, refused]
        exact link.throw _
    | optional | reference | union | literal | other => exact link.throw _
    | _ => exact link.lift _
  | .null, _, _ | .bool _, _, _ | .int _, _, _ | .float _, _, _ | .nan _, _, _
  | .text _, _, _ | .bytes _, _, _ | .list .., _, _ | .tuple .., _, _
  | .set .., _, _ | .frozenset .., _, _ | .dict .., _, _ | .mode _, _, _
  | .boundary _, _, _ | .point .., _, _ | .token .., _, _ | .record .., _, _
  | .schema _, _, _ | .contract _, _, _ | .settings .., _, _ | .pending .., _, _
  | .other .., _, _ => link.throw _

end Functions

end Linking

/-- **What goes over from calls to calls holds of all calls.** A relation that goes over to what is
put together holds between a call and the same call that may be nested `k` deeper, as soon as it
holds between the fault of calls that are nested too deeply and any call. By induction on the
depth. -/
theorem Linking.callWithin {R : (α : Type) → Run α → Run α → Prop} (link : Linking R) (k : Nat)
    (deep : ∀ v args kw, R Value (MonadExcept.throw Fault.tooDeep) (callWithin k v args kw))
    (depth : Nat) (v : Value) (args : List Value) (kw : Keywords) :
    R Value (CallContract.callWithin depth v args kw)
      (CallContract.callWithin (depth + k) v args kw) := by
  induction depth generalizing v args kw with
  | zero =>
    rw [Nat.zero_add]
    exact deep v args kw
  | succ depth ih =>
    rw [Nat.succ_add]
    exact link.callBy ih v args kw

/-- So all calls have a property that goes over to what is put together. -/
theorem Run.Closed.callWithin {P : (α : Type) → Run α → Prop} (closed : Run.Closed P) (depth : Nat)
    (v : Value) (args : List Value) (kw : Keywords) :
    P Value (CallContract.callWithin depth v args kw) :=
  (closed.linking.callWithin 0 (fun _ _ _ => ⟨rfl, closed.throw _⟩) depth v args kw).2

end CallContract
