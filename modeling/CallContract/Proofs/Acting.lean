import CallContract.Contract.Assembly
import CallContract.Proofs.Configuration
import CallContract.Proofs.Replacing
import CallContract.Value.Assignment

/-!
# Doing one thing after another

A history in a session is a list of acts (`Act`): getting, replacing or forgetting the active
settings, extending and implementing contracts, checks, calls, attempts to assign to checked
functions, and changes of the environment and of the files. What an act may change about the active
settings and the stored values is said once (`Act.later`), and what it comes to in sessions with
related configurations as well (`Act.agrees`); both go over to whole histories.
-/

namespace CallContract

/-- What can be done in a session. -/
inductive Act where
  /-- Get the active settings. -/
  | settings
  /-- Replace the active settings. -/
  | replace (base : Option Value) (overrides : List (String × Value))
  /-- Forget the active settings. -/
  | reset
  /-- Take a step that extends or implements a contract. -/
  | extend (contract : Value) (step : BuildStep)
  /-- Join a contract to an implementation. -/
  | implement (c : Contract) (implementation : Value)
  /-- Check a value. -/
  | validate (schema v : Value) (strict : Option Bool)
  /-- Call a function. -/
  | call (f : Value) (args : List Value) (kw : Keywords)
  /-- Try to give an object an attribute. -/
  | assign (v : Value) (name : String) (new : Value)
  /-- Change the environment. -/
  | environment (texts : List (String × String))
  /-- Change the files. -/
  | files (tree : FileTree)

/-- Whether a value is a checked function. -/
def Value.IsChecked (v : Value) : Prop :=
  ∃ id c implementation face, v = .function (.checked id c implementation face)

namespace Act

/-- What an act does, with a way to call functions. -/
def run (apply : Caller) : Act → Run Value
  | settings => Settings.active
  | replace base overrides => Settings.replace base overrides
  | reset => do
    Settings.reset
    return .null
  | extend contract step => step.take [] contract
  | implement c implementation => c.implement implementation
  | validate schema v strict => CallContract.validate apply schema v strict
  | call f args kw => apply f args kw
  | assign v name new => do
    CallContract.assign v name new
    return .null
  | environment texts => do
    modify fun s => { s with environment := texts }
    return .null
  | files tree => do
    modify fun s => { s with files := tree }
    return .null

/-- The session after an act, whatever its result. -/
def after (apply : Caller) (s : Session) (a : Act) : Session := ((a.run apply).exec s).2

/-- What can be seen of acts, one after another: the result of each, and the trace after it. -/
def outcomes (apply : Caller) : Session → List Act → List (Except Fault Value × List Entry)
  | _, [] => []
  | s, a :: rest =>
    (((a.run apply).exec s).1, (a.after apply s).trace) :: outcomes apply (a.after apply s) rest

/-- Whether an act assigns to checked functions only. -/
def Harmless : Act → Prop
  | assign v _ _ => v.IsChecked
  | _ => True

/-- Whether an act has to do with the active settings only in that it may need them. -/
def Uses : Act → Prop
  | replace .. | reset | environment _ | files _ => False
  | _ => True

end Act

/-- Checked functions cannot be changed. -/
theorem assign_checked {v : Value} (h : v.IsChecked) (name : String) (new : Value) :
    CallContract.assign v name new = throw .immutable := by
  obtain ⟨id, c, implementation, face, rfl⟩ := h
  exact Run.ext_exec fun _ => rfl

theorem Act.run_assign {v : Value} (h : v.IsChecked) (name : String) (new : Value)
    (apply : Caller) : (assign v name new).run apply = throw .immutable := by
  rw [run, assign_checked h, Run.throw_bind]

/-- What goes over to all that is put together from steps, and holds of getting the active settings,
holds of all acts that only need these. -/
theorem Act.run_closed {P : (α : Type) → Run α → Prop} (closed : Run.Closed P)
    (active : P Value Settings.active) {a : Act} (uses : a.Uses) (harmless : a.Harmless)
    (depth : Nat) : P Value (a.run (callWithin depth)) := by
  have calls (f args kw) : callWithin depth f args kw = callWithin depth f args kw ∧
      P Value (callWithin depth f args kw) := ⟨rfl, closed.callWithin depth f args kw⟩
  cases a with
  | settings => exact active
  | extend contract step => exact (closed.linking.take [] contract step).2
  | implement c implementation => exact (closed.linking.implement c implementation).2
  | validate schema v strict => exact (closed.linking.validate calls schema v strict).2
  | call f args kw => exact (calls f args kw).2
  | assign v name new =>
    rw [run_assign harmless]
    exact closed.throw _
  | replace _ _ | reset | environment _ | files _ => exact uses.elim

/-! ### What an act may change -/

/-- What loading the settings in a session comes to. -/
def Session.loadable (s : Session) : Except Fault Settings :=
  ((Settings.load none s.environment).exec s).1

theorem Session.loadable_congr {s t : Session} (files : s.files = t.files)
    (environment : s.environment = t.environment) : s.loadable = t.loadable := by
  obtain ⟨r, g, loaded⟩ := Settings.load_reports none s.environment s.files
  rw [loadable, loadable, ← environment, loaded s rfl, loaded t files.symm]

/-- Settings that are not active yet are loaded. -/
theorem Settings.exec_active_of_unset {s : Session} (unset : s.active = none) :
    ∃ journal, active.exec s = match s.loadable with
      | .ok st =>
        let v := st.toValue (.loaded s.loads)
        (.ok v, { s with active := some v, loads := s.loads + 1, journal })
      | .error e => (.error e, { s with journal }) := by
  obtain ⟨r, g, loaded⟩ := load_reports none s.environment s.files
  have here := loaded s rfl
  have loadable : s.loadable = r := congrArg Prod.fst here
  refine ⟨g s.journal, ?_⟩
  rw [loadable]
  unfold active
  rw [Run.exec_bind_of_ok (Run.exec_get s)]
  simp only [unset] at here ⊢
  cases r with
  | ok st => exact Run.exec_bind_of_ok here
  | error e => exact Run.exec_bind_of_error here

/-- Whether, in one session after another, the active settings are what they were, unless there were
none and they have been loaded. -/
def Session.Asked (s t : Session) : Prop :=
  t.active = s.active ∨
    s.active = none ∧ ∃ st n, s.loadable = .ok st ∧ t.active = some (st.toValue (.loaded n))

/-- Whether one session comes later than another without an act on its configuration: stored
values, files and environment are what they were, and settings have at most been asked for. -/
structure Session.Later (s t : Session) : Prop where
  refs : t.refs = s.refs
  files : t.files = s.files
  environment : t.environment = s.environment
  active : s.Asked t

namespace Session.Later

theorem refl (s : Session) : s.Later s := ⟨rfl, rfl, rfl, .inl rfl⟩

theorem trans {s t u : Session} (first : s.Later t) (second : t.Later u) : s.Later u where
  refs := second.refs.trans first.refs
  files := second.files.trans first.files
  environment := second.environment.trans first.environment
  active := by
    rcases second.active with same | ⟨unset, st, n, loaded, now⟩
    · rw [Asked, same]
      exact first.active
    · rcases first.active with same | ⟨-, _, _, -, active⟩
      · rw [loadable_congr first.files first.environment] at loaded
        exact .inr ⟨same ▸ unset, st, n, loaded, now⟩
      · rw [unset] at active
        cases active

/-- A session in which settings have been asked for comes later. -/
theorem asked (s : Session) : s.Later (Settings.active.exec s).2 := by
  cases given : s.active with
  | some v =>
    rw [Settings.exec_active_of_some given]
    exact refl s
  | none =>
    obtain ⟨journal, exec⟩ := Settings.exec_active_of_unset given
    rw [exec]
    cases loaded : s.loadable with
    | error e => exact ⟨rfl, rfl, rfl, .inl rfl⟩
    | ok st => exact ⟨rfl, rfl, rfl, .inr ⟨given, st, _, loaded, rfl⟩⟩

end Session.Later

/-- Whether all sessions after a run come later. -/
def Run.Onward {α : Type} (m : Run α) : Prop := ∀ s, Session.Later s (m.exec s).2

namespace Run.Onward

variable {α β : Type}

theorem pure (a : α) : (Pure.pure a : Run α).Onward := fun s => .refl s

theorem throw (e : Fault) : (MonadExcept.throw e : Run α).Onward := fun s => .refl s

theorem require (e : Fault) (r : Option α) : (Run.require e r).Onward := by
  cases r with
  | some a => exact pure a
  | none => exact throw e

theorem get {k : Session → Run β} (rest : ∀ s, (k s).Onward) :
    ((MonadState.get : Run Session) >>= k).Onward := by
  intro s
  rw [exec_bind_of_ok (exec_get s)]
  exact rest s s

theorem bind {m : Run α} {k : α → Run β} (first : m.Onward) (rest : ∀ a, (k a).Onward) :
    (m >>= k).Onward := by
  intro s
  have later := first s
  rw [exec_bind]
  revert later
  rcases m.exec s with ⟨e | a, t⟩
  · exact id
  · exact fun later => later.trans (rest a t)

theorem tryCatch {m : Run α} {handle : Fault → Run α} (first : m.Onward)
    (rest : ∀ e, (handle e).Onward) : (MonadExcept.tryCatch m handle).Onward := by
  intro s
  have later := first s
  rw [exec_tryCatch]
  revert later
  rcases m.exec s with ⟨e | a, t⟩
  · exact fun later => later.trans (rest e t)
  · exact id

theorem withRecord (r : Value) {m : Run α} (h : m.Onward) : (Run.withRecord r m).Onward := by
  intro s
  obtain ⟨refs, files, environment, active⟩ := h (s.withRecords (r :: s.records))
  have loadable : (s.withRecords (r :: s.records)).loadable = s.loadable :=
    Session.loadable_congr rfl rfl
  rw [Session.Asked, loadable] at active
  rw [exec_withRecord]
  exact ⟨refs, files, environment, active⟩

theorem of_asks {m : Run α} (asks : Settings.Asks m) : m.Onward := by
  obtain ⟨answer, exec⟩ := asks
  intro s
  rw [exec]
  exact .asked s

theorem define (name : String) (body : Expr) : (Predicate.define name body).Onward := by
  refine get fun s => ?_
  split
  · exact pure _
  · exact bind (fun _ => ⟨rfl, rfl, rfl, .inl rfl⟩) fun _ => pure _

theorem named (name : String) : (Predicate.named name).Onward := by
  refine get fun s => ?_
  split
  · exact pure _
  · exact define name _
  · exact throw _

/-- All steps lead onward. -/
theorem step {m : Run α} (h : m.Step) : m.Onward := by
  cases h with
  | rule S =>
    intro s
    obtain ⟨store, made, looked⟩ := S.adapter_session s
    rw [exec_map_snd, looked]
    exact ⟨rfl, rfl, rfl, .inl rfl⟩
  | strict => exact of_asks Settings.activeStrict_asks
  | mode => exact of_asks Settings.activeMode_asks
  | record source message => exact fun _ => ⟨rfl, rfl, rfl, .inl rfl⟩
  | enter name arguments => exact fun _ => ⟨rfl, rfl, rfl, .inl rfl⟩
  | freshId => exact fun _ => ⟨rfl, rfl, rfl, .inl rfl⟩
  | number v => exact fun _ => ⟨rfl, rfl, rfl, .inl rfl⟩
  | stored name => exact get fun _ => require _ _
  | token name => exact fun s => .refl s
  | currentRecord => exact get fun _ => require _ _
  | named name => exact named name
  | define name body => exact define name body

/-- What is put together from steps leads onward. -/
theorem closed : Run.Closed fun _ m => m.Onward := ⟨pure, throw, bind, tryCatch, withRecord, step⟩

end Run.Onward

/-- **An act that only needs the settings** may load them on first use, and changes nothing else
about them, nor stored values. -/
theorem Act.later {a : Act} (uses : a.Uses) (harmless : a.Harmless) (depth : Nat) (s : Session) :
    s.Later (a.after (callWithin depth) s) :=
  Act.run_closed Run.Onward.closed .asked uses harmless depth s

/-! ### What acts come to in sessions with different configurations -/

/-- Whether a relation of configurations lasts while settings are asked for and replaced, and while
the environment and the files change. -/
structure Lasting (D : Configuration → Configuration → Prop) : Prop where
  unrecorded : Unrecorded D
  asked : Settings.active.Agrees (fun _ => True) D
  replaced : ∀ c c' v, D c c' → D { c with active := some v } { c' with active := some v }
  environment : ∀ c c' texts, D c c' →
    D { c with environment := texts } { c' with environment := texts }
  files : ∀ c c' tree, D c c' → D { c with files := tree } { c' with files := tree }

/-- Whether a relation of configurations also lasts while settings are forgotten, if they are. -/
def Act.Keeps (D : Configuration → Configuration → Prop) (a : Act) : Prop :=
  a = .reset → ∀ c c', D c c' → D { c with active := none } { c' with active := none }

section Agreement

variable {D : Configuration → Configuration → Prop} (lasting : Lasting D)

include lasting

theorem Lasting.replace (base : Option Value) (overrides : List (String × Value)) :
    (Settings.replace base overrides).Agrees (fun _ => True) D := by
  rw [Settings.replace_eq]
  refine .bind ?_ fun b => .bind ?_ fun new => ?_
  · cases base with
    | some v => exact .pure v
    | none => exact lasting.asked
  · unfold Settings.override
    split
    · exact .pure b
    · refine .bind (.require _ _) fun entries => ?_
      split
      · exact .of_apart_any fun _ _ => rfl
      · exact .throw _
  · refine .bind (.change (fun c => { c with active := some new }) (fun _ => rfl) ?_) fun _ => ?_
    · exact fun c c' => lasting.replaced c c' new
    · refine .bind (.require _ _) fun dump => .bind (.lift _) fun shown => ?_
      exact .bind (.record lasting.unrecorded _ _) fun _ => .pure _

/-- **An act agrees** in sessions whose configurations are related in a lasting way. -/
theorem Act.agrees {a : Act} (harmless : a.Harmless) (keeps : a.Keeps D) (depth : Nat) :
    (a.run (callWithin depth)).Agrees (fun _ => True) D := by
  have closed := Run.Agrees.closed lasting.unrecorded lasting.asked
  have others (uses : a.Uses) := Act.run_closed closed lasting.asked uses harmless depth
  cases a with
  | replace base overrides => exact lasting.replace base overrides
  | reset =>
    refine .bind (.change (fun c => { c with active := none }) (fun _ => rfl) (keeps rfl)) ?_
    exact fun _ => .pure _
  | environment texts =>
    refine .bind (.change (fun c => { c with environment := texts }) (fun _ => rfl) ?_) ?_
    · exact fun c c' => lasting.environment c c' texts
    · exact fun _ => .pure _
  | files tree =>
    refine .bind (.change (fun c => { c with files := tree }) (fun _ => rfl) ?_) ?_
    · exact fun c c' => lasting.files c c' tree
    · exact fun _ => .pure _
  | settings | extend _ _ | implement _ _ | validate _ _ _ | call _ _ _ | assign _ _ _ =>
    exact others trivial

/-- So does a whole history. -/
theorem Act.outcomes_agree {acts : List Act} (harmless : ∀ a ∈ acts, a.Harmless)
    (keeps : ∀ a ∈ acts, a.Keeps D) (depth : Nat) {s : Session} {c : Configuration}
    (related : D s.configuration c) :
    outcomes (callWithin depth) (s.withConfiguration c) acts =
      outcomes (callWithin depth) s acts := by
  induction acts generalizing s c with
  | nil => rfl
  | cons a rest ih =>
    obtain ⟨harmlessHere, harmlessRest⟩ := List.forall_mem_cons.mp harmless
    obtain ⟨keepsHere, keepsRest⟩ := List.forall_mem_cons.mp keeps
    obtain ⟨-, c', ran, related'⟩ :=
      Act.agrees lasting harmlessHere keepsHere depth s c trivial related
    have next := ih harmlessRest keepsRest related'
    rw [outcomes, outcomes, after, after, ran]
    dsimp only
    rw [next]
    rfl

end Agreement

end CallContract
