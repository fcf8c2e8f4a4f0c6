import CallContract.Proofs.Acting
import CallContract.Proofs.Gates
import CallContract.Proofs.Refusal

/-!
# What is fixed when a contract is implemented

A checked function has the mode that its contract has at the time when it is implemented, and keeps
it with all its parts, whatever is done afterwards (`Act.history_refs`). From then on the settings
matter for its calls only through how strict checks are. Runs that ask the active settings for no
more than that (`Run.Frugal`) agree wherever checks are as strict (`SameStrict`), and those that do
not even ask for that agree everywhere (`Holding`). Calls through gates are such runs as long as
the predicates of the gates and the implementation are (`Run.Frugal.call`).
-/

namespace CallContract

/-! ### Runs that ask for little -/

/-- Runs that ask the active settings for nothing, or for nothing but how strict checks are, and
whose look-ups of adapters keep a property of the store. What comes after a step only has to be such
a run for what the step can give. -/
inductive Run.Frugal (I : AdapterStore → Prop) (asking : Bool) : {α : Type} → Run α → Prop where
  /-- A run that has nothing to do with the configuration, nor with the store. -/
  | apart {α : Type} {m : Run α} : m.Apart → (∀ s, (m.exec s).2.adapters = s.adapters) →
    Frugal I asking m
  /-- Looking up an adapter. -/
  | adapter (S : Schema) : (∀ s, I s.adapters → I (S.adapter.exec s).2.adapters) →
    Frugal I asking S.adapter
  /-- Writing into the journal. -/
  | record (source message : String) : Frugal I asking (Run.record source message)
  /-- Asking how strict checks are. -/
  | strict : asking = true → Frugal I asking Settings.activeStrict
  /-- One run after another. -/
  | bind {α β : Type} {m : Run α} {k : α → Run β} : Frugal I asking m →
    (∀ a s t, I (Session.adapters s) → m.exec s = (.ok a, t) → Frugal I asking (k a)) →
    Frugal I asking (m >>= k)
  /-- A run whose faults are handled by another. -/
  | tryCatch {α : Type} {m : Run α} {h : Fault → Run α} : Frugal I asking m →
    (∀ e, Frugal I asking (h e)) → Frugal I asking (MonadExcept.tryCatch m h)
  /-- A run for a member of a family. -/
  | withRecord {α : Type} (r : Value) {m : Run α} : Frugal I asking m →
    Frugal I asking (Run.withRecord r m)

/-- Whether checks by a schema ask for little in what they call: looking up the adapter keeps the
property of the store, and all that the rule of the adapter calls asks for little. -/
structure Schema.Frugal (I : AdapterStore → Prop) (asking : Bool) (apply : Caller) (S : Schema) :
    Prop where
  lookup : ∀ s, I (Session.adapters s) → I (S.adapter.exec s).2.adapters
  calls : ∀ s a, I (Session.adapters s) → (S.adapter.exec s).1 = .ok a →
    a.rule.AsksOnly fun p => ∀ args kw, (apply p args kw).Frugal I asking

namespace Run.Frugal

section Runs

variable {I : AdapterStore → Prop} {asking : Bool} {apply : Caller} {α β : Type}

theorem pure (a : α) : (Pure.pure a : Run α).Frugal I asking := .apart (.pure a) fun _ => rfl

theorem throw (e : Fault) : (MonadExcept.throw e : Run α).Frugal I asking :=
  .apart (.throw e) fun _ => rfl

theorem lift (r : Except Fault α) : (Run.lift r).Frugal I asking := by
  cases r with
  | ok a => exact pure a
  | error e => exact throw e

theorem require (e : Fault) (r : Option α) : (Run.require e r).Frugal I asking := by
  cases r with
  | some a => exact pure a
  | none => exact throw e

/-- One run after another, whatever comes of the first. -/
theorem before {m : Run α} {k : α → Run β} (first : m.Frugal I asking)
    (rest : ∀ a, (k a).Frugal I asking) : (m >>= k).Frugal I asking :=
  first.bind fun a _ _ _ _ => rest a

theorem map {m : Run α} (g : α → β) (h : m.Frugal I asking) : (g <$> m).Frugal I asking := by
  rw [← bind_pure_comp]
  exact h.before fun _ => pure _

theorem bindLift {r : Except Fault α} {k : α → Run β}
    (rest : ∀ a, r = .ok a → (k a).Frugal I asking) : (Run.lift r >>= k).Frugal I asking := by
  refine (lift r).bind fun a s t _ given => ?_
  cases r with
  | ok b =>
    cases given
    exact rest a rfl
  | error e => cases given

theorem relates : Run.Relates fun _ m _ => m.Frugal I asking := ⟨pure, throw, before⟩

/-! ### Checks and calls that ask for little -/

theorem narrow {p w : Value} (h : (apply.ask p w).Frugal I asking) (m v : Value) :
    (narrow apply p m v w).Frugal I asking := by
  unfold CallContract.narrow
  refine .before (.tryCatch (h.map _) fun e => ?_) fun answer => ?_
  · split
    · exact .pure _
    · exact .throw _
  · split
    · exact .pure _
    · split
      · exact .pure _
      · split
        · exact .pure _
        · exact .throw _

theorem consult {p v : Value} (h : (apply.ask p v).Frugal I asking) :
    (consult apply p v).Frugal I asking := by
  refine .tryCatch (h.map _) fun e => ?_
  split
  · exact .pure _
  · exact .throw _

/-- Strictness that is given needs no asking. -/
theorem strictness {given : Option Bool} (told : given = none → asking = true) :
    (strictness given).Frugal I asking := by
  cases given with
  | some b => exact .pure b
  | none => exact .strict (told rfl)

/-- **A check asks for little** if all that it calls does, and it need not ask how strict it is. -/
theorem validate {schema : Value} (frugal : (promote schema).Frugal I asking apply)
    {given : Option Bool} (told : given = none → asking = true) (v : Value) :
    (validate apply schema v given).Frugal I asking := by
  refine .bind (.adapter _ frugal.lookup) fun a s t held looked => ?_
  have related : CallsRelated (fun _ m _ => m.Frugal I asking) apply apply (fun _ => True)
      fun p => ∀ args kw, (apply p args kw).Frugal I asking :=
    ⟨fun _ calls m v w => (calls [w] []).narrow m v, fun _ _ _ calls => calls,
      fun _ _ _ calls v => (calls [v] []).consult⟩
  have calls := frugal.calls s a held (congrArg Prod.fst looked)
  refine .before (.strictness told) fun b => ?_
  refine .before (relates.rule related b a.rule a.rule.each_true calls v) fun verdict => ?_
  split
  · exact .pure _
  · exact .throw _

theorem gate {schema : Value} (frugal : (promote schema).Frugal I true apply) (b : Boundary)
    (name v : Value) : (Contract.gate apply b name schema v).Frugal I true := by
  refine .tryCatch (.validate frugal (fun _ => rfl) v) fun e => ?_
  split
  · exact .before (.lift _) fun _ => .before (.record _ _) fun _ => .throw _
  · exact .throw _

end Runs

end Run.Frugal

namespace Contract

/-- Whether the gates that a contract has ask for nothing but how strict checks are. -/
def GatesFrugal (I : AdapterStore → Prop) (apply : Caller) (c : Value) : Prop :=
  ∀ (b : Boundary) mode schema, c.ask "mode" = .ok mode → mode.enforces b = .ok true →
    c.ask b.schemaName = .ok schema → (promote schema).Frugal I true apply

/-- Whether a call hands certain arguments on to the implementation: what comes of the given ones at
the gate, or without a gate these themselves. -/
def Hands (I : AdapterStore → Prop) (apply : Caller) (c : Value) (face : Face) (args : List Value)
    (kw : Keywords) (xs : List Value) (ks : Keywords) : Prop :=
  ∃ mode gated, c.ask "mode" = .ok mode ∧ mode.enforces .args = .ok gated ∧
    if gated then ∃ s t, I (Session.adapters s) ∧
      (gateArgs apply c face args kw).exec s = (.ok (xs, ks), t)
    else xs = args ∧ ks = kw

end Contract

/-- **A call through gates asks for little** if each gate that there is does, and the implementation
with all that may be handed on to it. -/
theorem Run.Frugal.call {I : AdapterStore → Prop} {asking : Bool} {apply : Caller}
    {c implementation : Value} {face : Face} {args : List Value} {kw : Keywords}
    (gates : ∀ (b : Boundary) mode schema, c.ask "mode" = .ok mode → mode.enforces b = .ok true →
      c.ask b.schemaName = .ok schema →
        ∀ v, (Contract.gate apply b face.name schema v).Frugal I asking)
    (body : ∀ xs ks, Contract.Hands I apply c face args kw xs ks →
      (apply implementation xs ks).Frugal I asking) :
    (Contract.call apply c implementation face args kw).Frugal I asking := by
  have inward {mode : Value} (hasMode : c.ask "mode" = .ok mode)
      (enforced : mode.enforces .args = .ok true) :
      (Contract.gateArgs apply c face args kw).Frugal I asking := by
    unfold Contract.gateArgs
    split
    · exact .throw _
    · refine .bindLift fun schema asked => ?_
      refine .before (gates .args mode schema hasMode enforced asked _) fun gated => ?_
      exact .before (.require _ _) fun xs => .pure _
  have outward {mode : Value} (hasMode : c.ask "mode" = .ok mode) (result : Value) :
      (Run.lift (mode.enforces .result) >>= fun enforced => if enforced = true then
          Run.lift (c.ask Boundary.result.schemaName) >>= fun schema =>
            Contract.gate apply .result face.name schema result
        else Pure.pure result).Frugal I asking := by
    refine .bindLift fun enforced isEnforced => ?_
    split
    · rename_i on
      subst on
      exact .bindLift fun schema asked => gates .result mode schema hasMode isEnforced asked _
    · exact .pure _
  unfold Contract.call
  dsimp only
  split
  · rw [Run.throw_bind]
    exact .throw _
  · refine .bindLift fun mode hasMode => .bindLift fun enforced isEnforced => ?_
    split
    · rename_i on
      subst on
      refine .bind (inward hasMode isEnforced) fun passed s t held handed => ?_
      have hands : Contract.Hands I apply c face args kw passed.1 passed.2 :=
        ⟨mode, true, hasMode, isEnforced, s, t, held, handed⟩
      exact .before (body _ _ hands) fun result => outward hasMode result
    · rename_i off
      rw [pure_bind]
      have hands : Contract.Hands I apply c face args kw args kw :=
        ⟨mode, enforced, hasMode, isEnforced, by rw [if_neg off]; exact ⟨rfl, rfl⟩⟩
      exact .before (body _ _ hands) fun result => outward hasMode result

/-- Where there are no gates, a call asks for no more than the implementation. -/
theorem Run.Frugal.call_ungated {I : AdapterStore → Prop} {asking : Bool} {apply : Caller}
    {c implementation : Value} {face : Face} {args : List Value} {kw : Keywords}
    (ungated : c.ask "mode" = .ok (.mode .none))
    (body : (apply implementation args kw).Frugal I asking) :
    (Contract.call apply c implementation face args kw).Frugal I asking := by
  have off {b : Boundary} {mode : Value} {gated : Bool} (hasMode : c.ask "mode" = .ok mode)
      (enforced : mode.enforces b = .ok gated) : gated = false := by
    rw [ungated] at hasMode
    cases hasMode
    rw [Value.enforces_mode] at enforced
    cases b <;> cases enforced <;> rfl
  refine .call (fun b mode schema hasMode enforced => ?_) ?_
  · cases off hasMode enforced
  · rintro xs ks ⟨mode, gated, hasMode, enforced, handed⟩
    obtain rfl := off hasMode enforced
    obtain ⟨rfl, rfl⟩ := handed
    exact body

/-- **Runs that ask for little agree** wherever the answers to what they ask do. By induction on how
the run is put together. -/
theorem Run.Frugal.agrees {I : AdapterStore → Prop} {D : Configuration → Configuration → Prop}
    {asking : Bool} (unrecorded : Unrecorded D)
    (told : asking = true → Settings.activeStrict.Agrees I D) {α : Type} {m : Run α}
    (h : m.Frugal I asking) : m.Agrees I D := by
  induction h with
  | apart apart store => exact .of_apart apart fun s held => by rwa [store s]
  | adapter S lookup => exact .of_apart (.adapter S) lookup
  | record source message => exact .record unrecorded source message
  | strict on => exact told on
  | bind _ _ first rest => exact .bindOk first fun a s t held ran => rest a s t held ran
  | tryCatch _ _ first rest => exact .tryCatch first rest
  | withRecord r _ made => exact .withRecord r made

/-! ### Configurations that tell the same -/

/-- How strict checks are in a configuration, or why it cannot be told. -/
def Configuration.strictness (c : Configuration) : Except Fault Bool :=
  (Settings.activeStrict.exec (Session.start.withConfiguration c)).1

theorem Session.strictness_eq (s : Session) :
    (Settings.activeStrict.exec s).1 = s.configuration.strictness := by
  obtain ⟨answer, exec⟩ := Settings.activeStrict_asks
  rw [Configuration.strictness, exec, exec]
  exact congrArg (· >>= answer) (outlook_congr rfl rfl rfl)

/-- Whether checks are as strict in one configuration as in another. -/
def SameStrict (c c' : Configuration) : Prop := c'.strictness = c.strictness

/-- Settings with the same strictness are as strict, whatever else is in the configuration. -/
theorem SameStrict.of_active {c c' : Configuration} {v v' : Value} {st st' : Settings}
    (active : c.active = some v) (active' : c'.active = some v')
    (settings : Settings.ofValue? v = some st) (settings' : Settings.ofValue? v' = some st')
    (same : st'.strict = st.strict) : SameStrict c c' := by
  have told {c : Configuration} {v : Value} {st : Settings} (active : c.active = some v)
      (settings : Settings.ofValue? v = some st) : c.strictness = .ok st.strict := by
    obtain ⟨l, fields, rfl⟩ := Settings.ofValue?_eq_some_iff.mp settings
    rw [Configuration.strictness, Settings.activeStrict,
      Run.exec_bind_of_ok (Settings.exec_active_of_some (s := Session.start.withConfiguration c)
        active)]
    rfl
  rw [SameStrict, told active settings, told active' settings', same]

theorem SameStrict.unrecorded : Unrecorded SameStrict := by
  have kept (c : Configuration) (j : Journal) :
      Configuration.strictness { c with journal := j } = c.strictness := by
    obtain ⟨answer, exec⟩ := Settings.activeStrict_asks
    rw [Configuration.strictness, Configuration.strictness, exec, exec]
    exact congrArg (· >>= answer) (Session.outlook_congr rfl rfl rfl)
  exact fun c c' j j' same => (kept c' j').trans (same.trans (kept c j).symm)

/-- What asks how strict checks are agrees where checks are as strict. -/
theorem SameStrict.activeStrict (I : AdapterStore → Prop) :
    Settings.activeStrict.Agrees I SameStrict := by
  obtain ⟨answer, exec⟩ := Settings.activeStrict_asks
  -- Asking changes nothing but the configuration, which tells the same after it.
  have asked (s : Session) : ∃ d, (Settings.activeStrict.exec s).2 = s.withConfiguration d ∧
      d.strictness = s.configuration.strictness := by
    obtain ⟨active, loads, journal, kept, outlook⟩ := Settings.active_session s
    have after : (Settings.activeStrict.exec s).2 = (Settings.active.exec s).2 :=
      congrArg Prod.snd (exec s)
    refine ⟨((Settings.active.exec s).2).configuration, ?_, ?_⟩
    · rw [after, kept]
      rfl
    · rw [← Session.strictness_eq, ← Session.strictness_eq, exec, exec, outlook]
  intro s c held related
  obtain ⟨d, left, tells⟩ := asked s
  obtain ⟨d', left', tells'⟩ := asked (s.withConfiguration c)
  have answers : (Settings.activeStrict.exec (s.withConfiguration c)).1 =
      (Settings.activeStrict.exec s).1 := by
    rw [Session.strictness_eq, Session.strictness_eq]
    exact related
  rw [left]
  refine ⟨held, d', Prod.ext answers left', ?_⟩
  exact tells'.trans (related.trans tells.symm)

/-- Whether two configurations have certain active settings, or none. -/
def Holding (v v' : Option Value) (c c' : Configuration) : Prop := c.active = v ∧ c'.active = v'

theorem Holding.unrecorded (v v' : Option Value) : Unrecorded (Holding v v') := fun _ _ _ _ => id

/-- What asks for nothing but how strict checks are agrees where checks are as strict. -/
theorem Run.Frugal.agrees_sameStrict {I : AdapterStore → Prop} {α : Type} {m : Run α}
    (h : m.Frugal I true) : m.Agrees I SameStrict :=
  h.agrees SameStrict.unrecorded fun _ => SameStrict.activeStrict I

/-- What asks for nothing agrees whatever settings are active or not, and leaves them so. -/
theorem Run.Frugal.agrees_holding {I : AdapterStore → Prop} {α : Type} {m : Run α}
    (h : m.Frugal I false) (v v' : Option Value) : m.Agrees I (Holding v v') :=
  h.agrees (Holding.unrecorded v v') nofun

/-! ### Stored values -/

/-- Whether a run leaves stored values alone. -/
def Run.KeepsRefs {α : Type} (m : Run α) : Prop := ∀ s, (m.exec s).2.refs = s.refs

theorem Run.KeepsRefs.bind {α β : Type} {m : Run α} {k : α → Run β} (first : m.KeepsRefs)
    (rest : ∀ a, (k a).KeepsRefs) : (m >>= k).KeepsRefs := by
  intro s
  have kept := first s
  rw [exec_bind]
  revert kept
  rcases m.exec s with ⟨e | a, t⟩
  · exact id
  · exact fun kept => (rest a t).trans kept

theorem Settings.replace_keepsRefs (base : Option Value) (overrides : List (String × Value)) :
    (replace base overrides).KeepsRefs := by
  rw [replace_eq]
  refine .bind ?_ fun b => .bind ?_ fun new => ?_
  · cases base with
    | some v => exact fun _ => rfl
    | none => exact fun s => (Session.Later.asked s).refs
  · intro s
    rcases exec_override b overrides s with ⟨e, ran⟩ | ⟨-, ran⟩ | ⟨old, st, -, -, ran⟩ <;> rw [ran]
  · refine .bind (fun _ => rfl) fun _ => ?_
    cases wordDump? new with
    | none => exact fun _ => rfl
    | some dump =>
      rw [Run.require_some, pure_bind]
      cases dump.show <;> exact fun _ => rfl

/-- **No act changes what is stored**, unless it assigns to something else than a checked
function. -/
theorem Act.keepsRefs {a : Act} (harmless : a.Harmless) (depth : Nat) :
    (a.run (callWithin depth)).KeepsRefs := by
  have later (uses : a.Uses) : (a.run (callWithin depth)).KeepsRefs := fun s =>
    (Act.later uses harmless depth s).refs
  cases a with
  | replace base overrides => exact Settings.replace_keepsRefs base overrides
  | reset | environment _ | files _ => exact fun _ => rfl
  | settings | extend _ _ | implement _ _ | validate _ _ _ | call _ _ _ | assign _ _ _ =>
    exact later trivial

theorem Act.history_refs {acts : List Act} (harmless : ∀ a ∈ acts, a.Harmless) (depth : Nat)
    (s : Session) : (acts.foldl (after (callWithin depth)) s).refs = s.refs := by
  induction acts generalizing s with
  | nil => rfl
  | cons a rest ih =>
    obtain ⟨here, there⟩ := List.forall_mem_cons.mp harmless
    exact (ih there _).trans (Act.keepsRefs here depth s)

/-- What is made of a contract and an implementation: a checked function that has them, with the
mode that the contract has by now. -/
theorem Contract.implement_eq_ok {c : Contract} {implementation f : Value} {s t : Session}
    (made : (c.implement implementation).exec s = (.ok f, t)) :
    ∃ id mode, (c.resolvedMode.exec s).1 = .ok mode ∧
      f = .function (.checked id (.contract { c with label := .fresh, mode }) implementation
        implementation.face) := by
  unfold implement at made
  dsimp only at made
  split at made
  · rw [Run.throw_bind] at made
    cases made
  · obtain ⟨mode, u, resolved, made⟩ := Run.exec_bind_eq_ok.mp made
    obtain ⟨g, u', joined, made⟩ := Run.exec_bind_eq_ok.mp made
    obtain ⟨name, _, -, made⟩ := Run.exec_bind_eq_ok.mp made
    obtain ⟨word, _, -, made⟩ := Run.exec_bind_eq_ok.mp made
    obtain ⟨shown, _, -, made⟩ := Run.exec_bind_eq_ok.mp made
    obtain ⟨-, _, -, made⟩ := Run.exec_bind_eq_ok.mp made
    obtain ⟨rfl, -⟩ := Run.exec_pure_eq_ok.mp made
    refine ⟨u.next, mode, congrArg Prod.fst resolved, ?_⟩
    unfold checked at joined
    split at joined
    · cases joined
    · cases joined
    · obtain ⟨id, w, fresh, joined⟩ := Run.exec_bind_eq_ok.mp joined
      cases fresh
      exact (Run.exec_pure_eq_ok.mp joined).1.symm

/-! ### Stores whose rules call only certain functions -/

/-- Whether the rules of all adapters in store call only what has a property. -/
def AdapterStore.AsksOnly (P : Value → Prop) (store : AdapterStore) : Prop :=
  ∀ e ∈ store, e.2.rule.AsksOnly P

/-- Looking up an adapter for a schema that calls only what has a property gives such an adapter,
and keeps the store so. -/
theorem Schema.adapter_asksOnly {P : Value → Prop} {S : Schema}
    (own : Gives (Rule.AsksOnly P) S.rule) {s : Session}
    (held : AdapterStore.AsksOnly P s.adapters) :
    AdapterStore.AsksOnly P (S.adapter.exec s).2.adapters ∧
      ∀ a, (S.adapter.exec s).1 = .ok a → a.rule.AsksOnly P := by
  cases hashable : S.isHashable with
  | false =>
    rw [exec_adapter_of_unhashable hashable, exec_newAdapter]
    cases rule : S.rule with
    | ok r =>
      refine ⟨held, ?_⟩
      rintro _ ⟨⟩
      exact own r rule
    | error e => exact ⟨held, nofun⟩
  | true =>
    cases taken : AdapterStore.take? S s.adapters with
    | some found =>
      obtain ⟨a, store⟩ := found
      obtain ⟨⟨T, stored, -⟩, subset⟩ := AdapterStore.take?_eq_some taken
      rw [exec_adapter_of_taken hashable taken]
      refine ⟨fun e he => held e (subset e he), ?_⟩
      rintro _ ⟨⟩
      exact held _ stored
    | none =>
      rw [exec_adapter_of_missing hashable taken]
      cases rule : S.rule with
      | ok r =>
        refine ⟨fun e he => ?_, ?_⟩
        · rcases List.mem_cons.mp (List.mem_of_mem_take he) with rfl | he
          · exact own r rule
          · exact held e he
        · rintro _ ⟨⟩
          exact own r rule
      | error e => exact ⟨held, nofun⟩

/-- Checks by a schema ask for little if what the schema calls, and what is called from the store,
does. -/
theorem Schema.Frugal.of_asksOnly {P : Value → Prop} {asking : Bool} {apply : Caller}
    (calls : ∀ p, P p → ∀ args kw, (apply p args kw).Frugal (AdapterStore.AsksOnly P) asking)
    {S : Schema} (own : Gives (Rule.AsksOnly P) S.rule) :
    S.Frugal (AdapterStore.AsksOnly P) asking apply where
  lookup _ held := (Schema.adapter_asksOnly own held).1
  calls _ a held looked :=
    a.rule.asksOnly_mono calls ((Schema.adapter_asksOnly own held).2 a looked)

/-! ### What is fixed, and what the settings matter for -/

/-- **What is fixed when a contract is implemented.** A checked function has the parts of its
contract, with the mode that the contract has at that time. Whatever is done afterwards, it stays as
it is. Its calls come to the same wherever checks are as strict, as long as its gates and its
implementation ask for nothing else. Where strictness is given for a check, or there are no gates,
and nothing that is called asks for it, the result is the same whatever settings there are or are
not, and these stay as they are. -/
theorem gates_fixed (depth : Nat) {I : AdapterStore → Prop} (id : Nat) (c implementation : Value)
    (face : Face) :
    let apply := callWithin depth
    let f := Value.function (.checked id c implementation face)
    (∀ (contract : Contract) s t, (contract.implement implementation).exec s = (.ok f, t) →
      face = implementation.face ∧ ∃ mode, (contract.resolvedMode.exec s).1 = .ok mode ∧
        c = .contract { contract with label := .fresh, mode }) ∧
      (∀ (acts : List Act) (s : Session) name, (∀ a ∈ acts, a.Harmless) →
        s.refs.lookup name = some f →
          let t := acts.foldl (Act.after apply) s
          t.refs.lookup name = some f ∧
            ∀ n new, (assign f n new).exec t = (.error .immutable, t)) ∧
      (∀ args kw, Contract.GatesFrugal I apply c →
        (∀ xs ks, Contract.Hands I apply c face args kw xs ks →
          (apply implementation xs ks).Frugal I true) →
        (callWithin (depth + 1) f args kw).Agrees I SameStrict) ∧
      (∀ schema v b, (promote schema).Frugal I false apply →
        ∀ active active', (validate apply schema v (some b)).Agrees I (Holding active active')) ∧
      (∀ args kw, c.ask "mode" = .ok (.mode .none) → (apply implementation args kw).Frugal I false →
        ∀ active active',
          (callWithin (depth + 1) f args kw).Agrees I (Holding active active')) := by
  intro apply f
  have ends (args kw) : callWithin (depth + 1) f args kw =
      Contract.call apply c implementation face args kw := rfl
  refine ⟨fun contract s t made => ?_, fun acts s name harmless stored => ?_,
    fun args kw gates body => ?_, fun schema v b frugal active active' => ?_,
    fun args kw ungated body active active' => ?_⟩
  · obtain ⟨id', mode, resolved, same⟩ := Contract.implement_eq_ok made
    cases Value.function.inj same
    exact ⟨rfl, mode, resolved, rfl⟩
  · refine ⟨?_, fun n new => ?_⟩
    · rwa [Act.history_refs harmless]
    · rw [assign_checked ⟨id, c, implementation, face, rfl⟩]
      rfl
  · rw [ends]
    exact (Run.Frugal.call (fun b mode schema hasMode enforced asked v =>
      .gate (gates b mode schema hasMode enforced asked) b face.name v) body).agrees_sameStrict
  · have given : some b = none → false = true := nofun
    exact (Run.Frugal.validate frugal given v).agrees_holding active active'
  · rw [ends]
    exact (Run.Frugal.call_ungated ungated body).agrees_holding active active'

/-- The function `len`. -/
def lengthOf : Value := .function (.builtin .len)

/-- Calls of `len` ask for nothing. -/
theorem lengthOf_frugal (I : AdapterStore → Prop) (asking : Bool) (depth : Nat) (args : List Value)
    (kw : Keywords) : (callWithin depth lengthOf args kw).Frugal I asking := by
  cases depth with
  | zero => exact .throw _
  | succ depth =>
    show (Builtin.len.call (callWithin depth) args kw).Frugal I asking
    unfold Builtin.call
    split <;> first | exact .lift _ | exact .throw _ | contradiction

/-- So checks by schemas that call nothing but `len` ask for nothing in what they call. -/
theorem Schema.Frugal.of_lengthOf {S : Schema} (own : Gives (Rule.AsksOnly (· = lengthOf)) S.rule)
    (asking : Bool) (depth : Nat) :
    S.Frugal (AdapterStore.AsksOnly (· = lengthOf)) asking (callWithin depth) := by
  refine .of_asksOnly ?_ own
  rintro _ rfl args kw
  exact lengthOf_frugal _ asking depth args kw

/-- The gates of `measuring` ask for nothing but how strict checks are, whichever there are. -/
theorem measuring_gatesFrugal (m : Mode) (depth : Nat) :
    Contract.GatesFrugal (AdapterStore.AsksOnly (· = lengthOf)) (callWithin depth)
      (.contract (measuring m)) := by
  intro b mode schema _ _ asked
  cases b with
  | args =>
    cases asked
    change (promote (.schema (measuring m).args)).Frugal _ _ _
    rw [promote_schema]
    refine .of_lengthOf ?_ true depth
    rintro _ ⟨⟩
    exact ⟨⟨trivial, rfl⟩, trivial⟩
  | result =>
    cases asked
    change (promote (.schema (measuring m).returns)).Frugal _ _ _
    rw [promote_schema]
    refine .of_lengthOf ?_ true depth
    rintro _ ⟨⟩
    trivial

/-- A contract for one text that is not empty, without a mode of its own. -/
def measuringUnset : Contract := { measuring .both with mode := .unset }

/-- A session in which the active settings have a mode, and checks are strict. -/
def strictSession (m : Mode) : Session :=
  { Session.start with active := some ((Settings.mk m true).toValue .fresh) }

/-- A configuration in which settings cannot be loaded. -/
def unloadable : Configuration :=
  { Session.start.configuration with environment := [(Settings.strictVariable, "maybe")] }

theorem gates_fixed_measuring :
    let made (m : Mode) := Value.function
      (.checked Label.firstFree (.contract (measuring m)) lengthOf lengthOf.face)
    let f := made .both
    let s := strictSession .both
    let acts : List Act := [.replace none [(Settings.modeField, .text "none")],
      .assign f "mode" (.mode .none), .call f [.text "a"] []]
    ((measuringUnset.implement lengthOf).exec s).1 = .ok f ∧
      (∃ mode, (measuringUnset.resolvedMode.exec s).1 = .ok mode ∧
        Value.contract (measuring .both) =
          .contract { measuringUnset with label := .fresh, mode }) ∧
      (acts.foldl (Act.after (callWithin 1)) { s with refs := [("f", f)] }).refs.lookup "f" =
        some f ∧
      ((callWithin 2 f [.text "a"] []).exec (strictSession .none)).1 =
        ((callWithin 2 f [.text "a"] []).exec s).1 ∧
      ((validate (callWithin 1) (.schema nonemptyText) (.text "") (some true)).exec
        (s.withConfiguration unloadable)).1 =
          ((validate (callWithin 1) (.schema nonemptyText) (.text "") (some true)).exec s).1 ∧
      ((callWithin 2 (made .none) [.text ""] []).exec (s.withConfiguration unloadable)).1 =
        ((callWithin 2 (made .none) [.text ""] []).exec s).1 := by
  intro made f s acts
  have empty : AdapterStore.AsksOnly (· = lengthOf) s.adapters := nofun
  obtain ⟨settled, stays, same, explicit, -⟩ := gates_fixed 1
    (I := AdapterStore.AsksOnly (· = lengthOf)) Label.firstFree (.contract (measuring .both))
    lengthOf lengthOf.face
  obtain ⟨-, -, -, -, ungated⟩ := gates_fixed 1 (I := AdapterStore.AsksOnly (· = lengthOf))
    Label.firstFree (.contract (measuring .none)) lengthOf lengthOf.face
  have harmless : ∀ a ∈ acts, a.Harmless := by
    simp only [acts, List.mem_cons, List.not_mem_nil, or_false, forall_eq_or_imp, forall_eq]
    exact ⟨trivial, ⟨_, _, _, _, rfl⟩, trivial⟩
  have nonempty : (promote (.schema nonemptyText)).Frugal (AdapterStore.AsksOnly (· = lengthOf))
      false (callWithin 1) := by
    rw [promote_schema]
    refine .of_lengthOf ?_ false 1
    rintro _ ⟨⟩
    exact ⟨trivial, rfl⟩
  have asStrict : SameStrict s.configuration (strictSession .none).configuration :=
    .of_active rfl rfl rfl rfl rfl
  have implemented : ((measuringUnset.implement lengthOf).exec s).1 = .ok f := rfl
  refine ⟨implemented, (settled measuringUnset s _ (Prod.ext implemented rfl)).2,
    (stays acts _ "f" harmless rfl).1, ?_, ?_, ?_⟩
  · obtain ⟨-, d, ran, -⟩ := same [.text "a"] [] (measuring_gatesFrugal .both 1)
      (fun xs ks _ => lengthOf_frugal _ true 1 xs ks) s _ empty asStrict
    have other : strictSession .none =
        s.withConfiguration (strictSession .none).configuration := rfl
    rw [other, ran]
  · obtain ⟨-, d, ran, -⟩ := explicit (.schema nonemptyText) (.text "") true nonempty s.active none
      s unloadable empty ⟨rfl, rfl⟩
    rw [ran]
  · obtain ⟨-, d, ran, -⟩ := ungated [.text ""] [] rfl (lengthOf_frugal _ false 1 _ _) s.active none
      s unloadable empty ⟨rfl, rfl⟩
    rw [ran]

end CallContract
