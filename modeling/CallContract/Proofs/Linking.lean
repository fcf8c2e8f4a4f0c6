import CallContract.Contract.Family
import CallContract.Proofs.Running

/-!
# What goes over from parts of a run to the whole

Runs are put together from a few sorts of steps (`Run.Step`) by going on with results, by handling
faults, and by making members of families. A relation between runs that goes over to what is put
together (`Linking`) holds of all that is built from terms, each with itself, because nothing else
is used to build it. Calls are left to a module of their own.
-/

namespace CallContract

/-- The steps that runs are made of, apart from calls, results and faults. -/
inductive Run.Step : {α : Type} → Run α → Prop where
  /-- Looking up an adapter, of which only the rule is used. -/
  | rule (S : Schema) : Step (Adapter.rule <$> S.adapter)
  /-- Asking the active settings how strict checks are. -/
  | strict : Step Settings.activeStrict
  /-- Asking the active settings for a mode. -/
  | mode : Step Settings.activeMode
  /-- Writing into the journal. -/
  | record (source message : String) : Step (Run.record source message)
  /-- Writing into the trace. -/
  | enter (name : String) (arguments : Fields) : Step (Run.enter name arguments)
  /-- Taking a new number. -/
  | freshId : Step Run.freshId
  /-- Numbering the objects in a value. -/
  | number (v : Value) : Step (Run.number v)
  /-- Looking up what is stored under a name. -/
  | stored (name : String) : Step (Run.stored name)
  /-- Looking up an opaque object. -/
  | token (name : String) : Step (do return ((← get).tokens.lookup name).getD (.token name []))
  /-- Looking up the current record. -/
  | currentRecord : Step Run.currentRecord
  /-- Looking up a predicate. -/
  | named (name : String) : Step (Predicate.named name)
  /-- Giving a predicate a body, unless it has one. -/
  | define (name : String) (body : Expr) : Step (Predicate.define name body)

/-- A relation between runs that goes over to what is put together from them. Handlers have to let
through that calls are nested too deeply. -/
structure Linking (R : (α : Type) → Run α → Run α → Prop) : Prop where
  pure : ∀ {α : Type} (a : α), R α (Pure.pure a) (Pure.pure a)
  throw : ∀ {α : Type} (e : Fault), R α (MonadExcept.throw e) (MonadExcept.throw e)
  bind : ∀ {α β : Type} {m n : Run α} {k l : α → Run β}, R α m n → (∀ a, R β (k a) (l a)) →
    R β (m >>= k) (n >>= l)
  tryCatch : ∀ {α : Type} {m n : Run α} {h : Fault → Run α}, R α m n → (∀ e, R α (h e) (h e)) →
    h .tooDeep = MonadExcept.throw .tooDeep →
    R α (MonadExcept.tryCatch m h) (MonadExcept.tryCatch n h)
  withRecord : ∀ {α : Type} (record : Value) {m : Run α}, R α m m →
    R α (Run.withRecord record m) (Run.withRecord record m)
  step : ∀ {α : Type} {m : Run α}, m.Step → R α m m

/-- A property of runs that goes over to what is put together from them. -/
structure Run.Closed (P : (α : Type) → Run α → Prop) : Prop where
  pure : ∀ {α : Type} (a : α), P α (Pure.pure a)
  throw : ∀ {α : Type} (e : Fault), P α (MonadExcept.throw e)
  bind : ∀ {α β : Type} {m : Run α} {k : α → Run β}, P α m → (∀ a, P β (k a)) → P β (m >>= k)
  tryCatch : ∀ {α : Type} {m : Run α} {h : Fault → Run α}, P α m → (∀ e, P α (h e)) →
    P α (MonadExcept.tryCatch m h)
  withRecord : ∀ {α : Type} (record : Value) {m : Run α}, P α m → P α (Run.withRecord record m)
  step : ∀ {α : Type} {m : Run α}, m.Step → P α m

/-- To have such a property is a relation of a run with itself. -/
theorem Run.Closed.linking {P : (α : Type) → Run α → Prop} (closed : Run.Closed P) :
    Linking fun α m n => m = n ∧ P α m where
  pure a := ⟨rfl, closed.pure a⟩
  throw e := ⟨rfl, closed.throw e⟩
  bind first rest := ⟨by rw [first.1, funext fun a => (rest a).1],
    closed.bind first.2 fun a => (rest a).2⟩
  tryCatch first rest _ := ⟨by rw [first.1], closed.tryCatch first.2 fun e => (rest e).2⟩
  withRecord r _ h := ⟨rfl, closed.withRecord r h.2⟩
  step h := ⟨rfl, closed.step h⟩

namespace Linking

variable {R : (α : Type) → Run α → Run α → Prop} (link : Linking R) {α β : Type}

include link

theorem map (g : α → β) {m n : Run α} (h : R α m n) : R β (g <$> m) (g <$> n) := by
  rw [← bind_pure_comp, ← bind_pure_comp]
  exact link.bind h fun a => link.pure _

theorem lift (r : Except Fault α) : R α (Run.lift r) (Run.lift r) := by
  cases r with
  | ok a => exact link.pure a
  | error e => exact link.throw e

theorem require (e : Fault) (r : Option α) : R α (Run.require e r) (Run.require e r) := by
  cases r with
  | some a => exact link.pure a
  | none => exact link.throw e

theorem mapM {f g : α → Run β} (h : ∀ x, R β (f x) (g x)) (xs : List α) :
    R (List β) (xs.mapM f) (xs.mapM g) := by
  induction xs with
  | nil => exact link.pure _
  | cons x xs ih =>
    rw [List.mapM_cons, List.mapM_cons]
    exact link.bind (h x) fun y => link.bind ih fun ys => link.pure _

theorem foldlM {f g : β → α → Run β} (h : ∀ b x, R β (f b x) (g b x)) (b : β) (xs : List α) :
    R β (xs.foldlM f b) (xs.foldlM g b) := by
  induction xs generalizing b with
  | nil => exact link.pure b
  | cons x xs ih =>
    rw [List.foldlM_cons, List.foldlM_cons]
    exact link.bind (h b x) fun b' => ih b'

/-! ### Terms -/

mutual

/-- Building a value takes only steps of these sorts. -/
theorem term (scope : Scope) : ∀ t : Term, R _ (t.build scope) (t.build scope)
  | .null | .bool _ | .int _ | .float _ | .text _ | .bytes _ | .mode _ | .boundary _ | .type _
  | .range _ _ => link.pure _
  | .list ts | .tuple ts => link.bind (terms scope ts) fun _ => link.pure _
  | .set ts | .frozenset ts => link.bind (members scope ts) fun _ => link.pure _
  | .dict es => link.bind (entries scope es) fun _ => link.pure _
  | .point x y => link.bind (term scope x) fun _ => link.bind (term scope y) fun _ => link.lift _
  | .token n => link.step (.token n)
  | .record fs => link.bind (fields scope fs) fun _ => link.pure _
  | .repeated _ _ => link.bind (link.lift _) fun _ => link.pure _
  | .nested _ t => link.bind (term scope t) fun _ => link.pure _
  | .power _ _ _ => link.bind (link.lift _) fun _ => link.lift _
  | .schema s => schema scope s
  | .function f => function scope f
  | .ref n => link.step (.stored n)
  | .item _ => link.bind (link.step .currentRecord) fun _ => link.lift _
  | .attribute _ => link.bind (link.step .currentRecord) fun _ => link.lift _

theorem terms (scope : Scope) : ∀ ts : List Term, R _ (buildAll scope ts) (buildAll scope ts)
  | [] => link.pure _
  | t :: ts => link.bind (term scope t) fun _ => link.bind (terms scope ts) fun _ => link.pure _

theorem members (scope : Scope) :
    ∀ ts : List Term, R _ (buildMembers scope ts) (buildMembers scope ts)
  | [] => link.pure _
  | t :: ts => by
    refine link.bind (term scope t) fun v => link.bind ?_ fun _ =>
      link.bind (members scope ts) fun _ => link.pure _
    unfold requireHashable
    split
    · exact link.pure _
    · exact link.throw _

theorem entries (scope : Scope) :
    ∀ es : List (Term × Term), R _ (buildEntries scope es) (buildEntries scope es)
  | [] => link.pure _
  | (k, t) :: es => by
    refine link.bind (term scope k) fun key => link.bind (term scope t) fun v =>
      link.bind ?_ fun _ => link.bind (entries scope es) fun _ => link.pure _
    unfold requireHashable
    split
    · exact link.pure _
    · exact link.throw _

theorem fields (scope : Scope) :
    ∀ fs : List (String × Term), R _ (buildFields scope fs) (buildFields scope fs)
  | [] => link.pure _
  | (_, t) :: fs => link.bind (term scope t) fun _ =>
    link.bind (fields scope fs) fun _ => link.pure _

theorem optional (scope : Scope) :
    ∀ t : Option Term, R _ (buildOptional scope t) (buildOptional scope t)
  | none => link.pure _
  | some t => link.bind (term scope t) fun _ => link.pure _

theorem parameters (scope : Scope) :
    ∀ ps : List (Parameter Term), R _ (buildParameters scope ps) (buildParameters scope ps)
  | [] => link.pure _
  | ⟨_, _, d⟩ :: ps => link.bind (optional scope d) fun _ =>
    link.bind (parameters scope ps) fun _ => link.pure _

/-- So does building a schema. -/
theorem schema (scope : Scope) : ∀ s : SchemaTerm, R _ (s.build scope) (s.build scope)
  | .type _ | .null | .any | .emptyTuple => link.pure _
  | .list ss | .tuple ss | .tupleOf ss | .tupleSchema ss =>
    link.bind (schemas scope ss) fun _ => link.pure _
  | .raw t => term scope t
  | .form _ ss => link.bind (schemas scope ss) fun _ => link.lift _
  | .bare => link.bind (link.step .freshId) fun _ => link.pure _
  | .promoted s | .primitive s => link.bind (schema scope s) fun _ => link.pure _
  | .refined _ base p message => link.bind (schema scope base) fun _ =>
    link.bind (predicate scope p) fun _ => link.bind (optional scope message) fun _ =>
      link.bind (link.lift _) fun _ => link.pure _
  | .array _ element length least most => link.bind (schema scope element) fun _ =>
    link.bind (optional scope length) fun _ => link.bind (optional scope least) fun _ =>
      link.bind (optional scope most) fun _ => link.bind (link.lift _) fun _ => link.pure _
  | .function _ args returns => link.bind (optionalSchema scope args) fun _ =>
    link.bind (optionalSchema scope returns) fun _ => link.pure _

theorem schemas (scope : Scope) :
    ∀ ss : List SchemaTerm, R _ (buildSchemas scope ss) (buildSchemas scope ss)
  | [] => link.pure _
  | s :: ss => link.bind (schema scope s) fun _ =>
    link.bind (schemas scope ss) fun _ => link.pure _

theorem optionalSchema (scope : Scope) :
    ∀ s : Option SchemaTerm, R _ (buildOptionalSchema scope s) (buildOptionalSchema scope s)
  | none => link.pure _
  | some s => link.bind (schema scope s) fun _ => link.pure _

theorem predicate (scope : Scope) : ∀ p : PredicateTerm, R _ (p.build scope) (p.build scope)
  | .named n => link.step (.named n)
  | .defined n body => link.step (.define n body)
  | .value t => term scope t

/-- So does building a function. -/
theorem function (scope : Scope) : ∀ f : FunctionTerm, R _ (f.build scope) (f.build scope)
  | .builtin _ | .type _ => link.pure _
  | .raw t => term scope t
  | .define kind name ps body doc attributes => by
    rw [FunctionTerm.build]
    refine link.bind (parameters scope ps) fun _ => link.bind (fields scope attributes) fun _ => ?_
    refine link.bind (link.lift _) fun d => link.bind (link.step .freshId) fun id => ?_
    dsimp only
    split
    · exact link.bind (link.step .freshId) fun _ => link.pure _
    · exact link.pure _

end

/-! ### Contracts -/

theorem checked (c implementation : Value) :
    R _ (Contract.checked c implementation) (Contract.checked c implementation) := by
  unfold Contract.checked
  split
  · exact link.throw _
  · exact link.throw _
  · exact link.bind (link.step .freshId) fun _ => link.pure _

theorem implement (c : Contract) (implementation : Value) :
    R _ (c.implement implementation) (c.implement implementation) := by
  have resolved : R _ c.resolvedMode c.resolvedMode := by
    unfold Contract.resolvedMode
    split
    · exact link.step .mode
    · exact link.pure _
  unfold Contract.implement
  dsimp only
  split
  · rw [Run.throw_bind]
    exact link.throw _
  · refine link.bind resolved fun mode => link.bind (link.checked _ _) fun f => ?_
    refine link.bind (link.lift _) fun name => link.bind (link.require _ _) fun word => ?_
    refine link.bind (link.lift _) fun shown => ?_
    exact link.bind (link.step (.record _ _)) fun _ => link.pure _

theorem make (args returns : Option Value) (implementation mode : Value) :
    R _ (Contract.make args returns implementation mode)
      (Contract.make args returns implementation mode) := by
  unfold Contract.make
  dsimp only
  split
  · refine link.bind (link.pure _) fun c => ?_
    split
    · refine link.bind (link.pure _) fun c => ?_
      split <;> first | exact link.pure _ | exact link.implement c _
    · refine link.bind (link.lift _) fun c => ?_
      split <;> first | exact link.pure _ | exact link.implement c _
  · refine link.bind (link.lift _) fun schema => link.bind (link.pure _) fun c => ?_
    split
    · refine link.bind (link.pure _) fun c => ?_
      split <;> first | exact link.pure _ | exact link.implement c _
    · refine link.bind (link.lift _) fun c => ?_
      split <;> first | exact link.pure _ | exact link.implement c _

theorem take (scope : Scope) (v : Value) (step : BuildStep) :
    R _ (step.take scope v) (step.take scope v) := by
  refine link.bind (link.require _ _) fun c => ?_
  cases step with
  | args ss => exact link.bind (link.schemas scope ss) fun _ => link.pure _
  | returns s => exact link.bind (link.schema scope s) fun _ => link.pure _
  | mode t =>
    exact link.bind (link.term scope t) fun _ => link.bind (link.lift _) fun _ => link.pure _
  | implement f => exact link.bind (link.function scope f) fun _ => link.implement c _

theorem implementation (scope : Scope) (f : Option FunctionTerm) :
    R _ (buildImplementation scope f) (buildImplementation scope f) := by
  cases f with
  | none => exact link.pure _
  | some f => exact link.function scope f

/-- So does building a contract. -/
theorem contract (scope : Scope) : ∀ t : ContractTerm, R _ (t.build scope) (t.build scope)
  | .direct args returns f mode => by
    refine link.bind (link.optionalSchema scope args) fun _ => ?_
    refine link.bind (link.optionalSchema scope returns) fun _ => ?_
    refine link.bind (link.implementation scope f) fun _ => ?_
    exact link.bind (link.optional scope mode) fun _ => link.make _ _ _ _
  | .chain none steps => link.foldlM (link.take scope) _ steps
  | .chain (some start) steps => link.bind (contract scope start) fun v =>
    link.foldlM (link.take scope) v steps
  | .contract args returns mode => link.bind (link.optionalSchema scope args) fun _ =>
    link.bind (link.optionalSchema scope returns) fun _ =>
      link.bind (link.optional scope mode) fun _ => link.pure _
  | .checked t f => link.bind (contract scope t) fun _ =>
    link.bind (link.function scope f) fun _ => link.checked _ _
  | .ref n => link.step (.stored n)
  | .currentRecord => link.step .currentRecord

/-- So does making a member of a family. -/
theorem produce (result : ContractTerm) (args : List Value) (kw : Keywords) :
    R _ (Family.produce result args kw) (Family.produce result args kw) := by
  unfold Family.produce
  split
  · exact link.withRecord _ (link.contract [] result)
  · exact link.throw _

end Linking

end CallContract
