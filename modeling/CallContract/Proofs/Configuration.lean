import CallContract.Proofs.Heedless

/-!
# Sessions with different configurations

What the settings depend on is one part of a session: the files and the environment, the settings
that are active, and the journal in which loading them leaves records (`Configuration`). Most steps
have nothing to do with it (`Run.Apart`). Whether a run comes to the same in two sessions that
differ in it only (`Run.Agrees`) depends on how the two configurations are related, and goes over
from steps to what is put together from them.
-/

namespace CallContract

/-- The part of a session that the settings depend on. -/
structure Configuration where
  files : FileTree
  environment : List (String × String)
  active : Option Value
  loads : Nat
  journal : Journal

namespace Session

/-- The configuration of a session. -/
def configuration (s : Session) : Configuration :=
  ⟨s.files, s.environment, s.active, s.loads, s.journal⟩

/-- A session with another configuration. -/
def withConfiguration (s : Session) (c : Configuration) : Session :=
  { s with
    files := c.files
    environment := c.environment
    active := c.active
    loads := c.loads
    journal := c.journal }

end Session

/-- Whether a run has nothing to do with the configuration. -/
def Run.Apart {α : Type} (m : Run α) : Prop :=
  ∀ s c, m.exec (Session.withConfiguration s c) = ((m.exec s).1, (m.exec s).2.withConfiguration c)

namespace Run.Apart

variable {α β : Type}

theorem pure (a : α) : (Pure.pure a : Run α).Apart := fun _ _ => rfl

theorem throw (e : Fault) : (MonadExcept.throw e : Run α).Apart := fun _ _ => rfl

theorem bind {m : Run α} {k : α → Run β} (first : m.Apart) (rest : ∀ a, (k a).Apart) :
    (m >>= k).Apart := by
  intro s c
  rw [exec_bind, exec_bind, first s c]
  rcases m.exec s with ⟨e | a, t⟩
  · rfl
  · exact rest a t c

theorem require (e : Fault) (r : Option α) : (Run.require e r).Apart := by
  cases r with
  | some a => exact pure a
  | none => exact throw e

/-- A run that goes on from what is no part of the configuration. -/
theorem get {k : Session → Run β} (rest : ∀ s, (k s).Apart)
    (unseen : ∀ s c, k (Session.withConfiguration s c) = k s) :
    ((MonadState.get : Run Session) >>= k).Apart := by
  intro s c
  rw [exec_bind_of_ok (exec_get _), exec_bind_of_ok (exec_get _), unseen]
  exact rest s s c

/-- A run that leaves the configuration alone keeps it. -/
theorem kept {m : Run α} (h : m.Apart) (s : Session) :
    (m.exec s).2.configuration = s.configuration := by
  have same := congrArg (fun x => x.2.configuration) (h s s.configuration)
  exact same

/-- Looking up an adapter has nothing to do with the configuration. -/
theorem adapter (S : Schema) : S.adapter.Apart := by
  intro s c
  cases hashable : S.isHashable with
  | false =>
    rw [Schema.exec_adapter_of_unhashable hashable, Schema.exec_adapter_of_unhashable hashable,
      Schema.exec_newAdapter, Schema.exec_newAdapter]
    cases S.rule <;> rfl
  | true =>
    cases taken : AdapterStore.take? S s.adapters with
    | some found =>
      obtain ⟨a, store⟩ := found
      rw [Schema.exec_adapter_of_taken hashable taken]
      exact Schema.exec_adapter_of_taken (s := s.withConfiguration c) hashable taken
    | none =>
      rw [Schema.exec_adapter_of_missing hashable taken,
        Schema.exec_adapter_of_missing (s := s.withConfiguration c) hashable taken]
      cases S.rule <;> rfl

theorem define (name : String) (body : Expr) : (Predicate.define name body).Apart := by
  refine get (fun s => ?_) fun _ _ => rfl
  split
  · exact pure _
  · exact bind (fun _ _ => rfl) fun _ => pure _

theorem named (name : String) : (Predicate.named name).Apart := by
  refine get (fun s => ?_) fun _ _ => rfl
  split
  · exact pure _
  · exact define name _
  · exact throw _

end Run.Apart

/-! ### Runs that agree -/

/-- Whether a run comes to the same in sessions that differ in their configurations only, if these
are related and the store has a property: it has the same result and does the same to the rest of
the session, the trace included, and it keeps the relation and the property. -/
def Run.Agrees (I : AdapterStore → Prop) (D : Configuration → Configuration → Prop) {α : Type}
    (m : Run α) : Prop :=
  ∀ s c, I (Session.adapters s) → D s.configuration c → I (m.exec s).2.adapters ∧
    ∃ c', m.exec (s.withConfiguration c) = ((m.exec s).1, (m.exec s).2.withConfiguration c') ∧
      D (m.exec s).2.configuration c'

namespace Run.Agrees

variable {I : AdapterStore → Prop} {D : Configuration → Configuration → Prop} {α β : Type}

/-- A run that has nothing to do with the configuration. -/
theorem of_apart {m : Run α} (apart : m.Apart)
    (store : ∀ s, I (Session.adapters s) → I (m.exec s).2.adapters) : m.Agrees I D :=
  fun s c held related => ⟨store s held, c, apart s c, by rwa [apart.kept]⟩

theorem pure (a : α) : (Pure.pure a : Run α).Agrees I D := of_apart (.pure a) fun _ => id

theorem throw (e : Fault) : (MonadExcept.throw e : Run α).Agrees I D :=
  of_apart (.throw e) fun _ => id

/-- What comes after a run only has to agree for what the run can give. -/
theorem bindOk {m : Run α} {k : α → Run β} (first : m.Agrees I D)
    (rest : ∀ a s t, I (Session.adapters s) → m.exec s = (.ok a, t) → (k a).Agrees I D) :
    (m >>= k).Agrees I D := by
  intro s c held related
  obtain ⟨held', c', ran, related'⟩ := first s c held related
  rw [exec_bind, exec_bind, ran]
  have next := fun a t => rest a s t held
  revert held' related' next
  rcases m.exec s with ⟨e | a, t⟩
  · exact fun held' related' _ => ⟨held', c', rfl, related'⟩
  · exact fun held' related' next => next a t rfl t c' held' related'

theorem bind {m : Run α} {k : α → Run β} (first : m.Agrees I D) (rest : ∀ a, (k a).Agrees I D) :
    (m >>= k).Agrees I D :=
  bindOk first fun a _ _ _ _ => rest a

theorem relates : Run.Relates fun _ m _ => m.Agrees I D := ⟨pure, throw, bind⟩

theorem map {m : Run α} (g : α → β) (h : m.Agrees I D) : (g <$> m).Agrees I D :=
  relates.map (n := m) g h

theorem lift (r : Except Fault α) : (Run.lift r).Agrees I D := by
  cases r with
  | ok a => exact pure a
  | error e => exact throw e

theorem require (e : Fault) (r : Option α) : (Run.require e r).Agrees I D := by
  cases r with
  | some a => exact pure a
  | none => exact throw e

theorem tryCatch {m : Run α} {handle : Fault → Run α} (first : m.Agrees I D)
    (rest : ∀ e, (handle e).Agrees I D) : (MonadExcept.tryCatch m handle).Agrees I D := by
  intro s c held related
  obtain ⟨held', c', ran, related'⟩ := first s c held related
  rw [exec_tryCatch, exec_tryCatch, ran]
  revert held' related'
  rcases m.exec s with ⟨e | a, t⟩
  · exact fun held' related' => rest e t c' held' related'
  · exact fun held' related' => ⟨held', c', rfl, related'⟩

theorem withRecord (r : Value) {m : Run α} (h : m.Agrees I D) :
    (Run.withRecord r m).Agrees I D := by
  intro s c held related
  obtain ⟨held', c', ran, related'⟩ := h (s.withRecords (r :: s.records)) c held related
  rw [exec_withRecord, exec_withRecord]
  refine ⟨held', c', ?_, related'⟩
  exact congrArg (fun x => (x.1, x.2.withRecords s.records)) ran

/-- A change of the configuration that keeps the relation. -/
theorem change {g : Session → Session} (h : Configuration → Configuration)
    (changes : ∀ s, g s = s.withConfiguration (h s.configuration))
    (kept : ∀ c c', D c c' → D (h c) (h c')) : (modify g : Run Unit).Agrees I D := by
  intro s c held related
  rw [exec_modify, exec_modify, changes, changes]
  exact ⟨held, h c, rfl, kept _ _ related⟩

end Run.Agrees

/-- Whether a relation of configurations holds whatever the journals are. -/
def Unrecorded (D : Configuration → Configuration → Prop) : Prop :=
  ∀ c c' j j', D c c' → D { c with journal := j } { c' with journal := j' }

namespace Run.Agrees

variable {I : AdapterStore → Prop} {D : Configuration → Configuration → Prop} {α : Type}

theorem record (unrecorded : Unrecorded D) (source message : String) :
    (Run.record source message).Agrees I D :=
  change (fun c => { c with journal := c.journal.add ⟨source, message⟩ }) (fun _ => rfl)
    fun _ _ => unrecorded _ _ _ _

/-- What has the property that all stores have. -/
theorem of_apart_any {m : Run α} (apart : m.Apart) : m.Agrees (fun _ => True) D :=
  of_apart apart fun _ => id

/-- What is asked of the active settings. -/
theorem of_active_bind (active : Settings.active.Agrees I D) {k : Value → Run α}
    (answers : ∀ v, ∃ r, k v = Run.lift r) : (Settings.active >>= k).Agrees I D := by
  refine active.bind fun v => ?_
  obtain ⟨r, same⟩ := answers v
  rw [same]
  exact lift r

theorem activeStrict (active : Settings.active.Agrees I D) : Settings.activeStrict.Agrees I D := by
  refine of_active_bind active fun v => ⟨Settings.strictOf (v.attribute? Settings.strictField), ?_⟩
  cases v.attribute? Settings.strictField with
  | none => rfl
  | some w => cases w <;> rfl

theorem activeMode (active : Settings.active.Agrees I D) : Settings.activeMode.Agrees I D := by
  refine of_active_bind active fun v => ⟨Settings.modeOf (v.attribute? Settings.modeField), ?_⟩
  cases v.attribute? Settings.modeField with
  | none => rfl
  | some w => cases w <;> rfl

/-- Each sort of step agrees if getting the active settings does. -/
theorem step (unrecorded : Unrecorded D) (active : Settings.active.Agrees (fun _ => True) D)
    {m : Run α} (h : m.Step) : m.Agrees (fun _ => True) D := by
  cases h with
  | rule S => exact map _ (of_apart_any (.adapter S))
  | strict => exact activeStrict active
  | mode => exact activeMode active
  | record source message => exact record unrecorded source message
  | enter name arguments => exact of_apart_any fun _ _ => rfl
  | freshId => exact of_apart_any fun _ _ => rfl
  | number v => exact of_apart_any fun _ _ => rfl
  | stored name => exact of_apart_any (.get (fun _ => .require _ _) fun _ _ => rfl)
  | token name => exact of_apart_any fun _ _ => rfl
  | currentRecord => exact of_apart_any (.get (fun _ => .require _ _) fun _ _ => rfl)
  | named name => exact of_apart_any (.named name)
  | define name body => exact of_apart_any (.define name body)

/-- If getting the active settings agrees, so does all that is put together from steps. -/
theorem closed (unrecorded : Unrecorded D) (active : Settings.active.Agrees (fun _ => True) D) :
    Run.Closed fun _ m => m.Agrees (fun _ => True) D :=
  ⟨pure, throw, bind, tryCatch, withRecord, step unrecorded active⟩

end Run.Agrees

end CallContract
