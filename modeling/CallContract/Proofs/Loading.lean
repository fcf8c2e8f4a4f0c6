import CallContract.Proofs.Running
import CallContract.Settings.Loading

/-!
# What loading settings comes to

Loading settings is decided by the files and the environment, and leaves traces in the journal only
(`Run.Reports`). So what the active settings tell is settled before they are loaded
(`Session.outlook`), and asking for them does not change it.
-/

namespace CallContract

/-- Whether what a run comes to is decided by the files, and the journal is all that it changes. -/
def Run.Reports {α : Type} (m : Run α) : Prop :=
  ∀ files, ∃ (r : Except Fault α) (g : Journal → Journal), ∀ s : Session, s.files = files →
    m.exec s = (r, { s with journal := g s.journal })

namespace Run.Reports

variable {α β : Type}

theorem pure (a : α) : (Pure.pure a : Run α).Reports := fun _ => ⟨.ok a, id, fun _ _ => rfl⟩

theorem throw (e : Fault) : (MonadExcept.throw e : Run α).Reports :=
  fun _ => ⟨.error e, id, fun _ _ => rfl⟩

theorem lift (r : Except Fault α) : (Run.lift r).Reports := by
  cases r with
  | ok a => exact pure a
  | error e => exact throw e

theorem liftPath (r : Except PathDefect α) : (Run.liftPath r).Reports := lift _

theorem record (source message : String) : (Run.record source message).Reports :=
  fun _ => ⟨.ok (), fun j => j.add ⟨source, message⟩, fun _ _ => rfl⟩

theorem bind {m : Run α} {k : α → Run β} (first : m.Reports) (rest : ∀ a, (k a).Reports) :
    (m >>= k).Reports := by
  intro files
  obtain ⟨r, g, hm⟩ := first files
  cases r with
  | error e => exact ⟨.error e, g, fun s hs => exec_bind_of_error (hm s hs)⟩
  | ok a =>
    obtain ⟨r', g', hk⟩ := rest a files
    exact ⟨r', g' ∘ g, fun s hs => (exec_bind_of_ok (hm s hs)).trans (hk _ hs)⟩

/-- A run that goes on from the files of the session. -/
theorem get {k : Session → Run β} (hk : ∀ s, (k s).Reports)
    (unseen : ∀ s t : Session, s.files = t.files → k s = k t) :
    ((MonadState.get : Run Session) >>= k).Reports := by
  intro files
  let start := { Session.start with files }
  obtain ⟨r, g, h⟩ := hk start files
  refine ⟨r, g, fun s hs => ?_⟩
  rw [exec_bind_of_ok (exec_get s), unseen s start hs, h s hs]

end Run.Reports

namespace Settings

theorem loadFile_reports (path : Path) : (loadFile path).Reports := by
  unfold loadFile
  refine .get (fun s => ?_) (fun s t same => by rw [same])
  refine .bind (.liftPath _) fun found => ?_
  split
  · exact .throw _
  · exact .throw _
  · split
    · exact .throw _
    · split
      · exact .throw _
      · dsimp only
        split
        · exact .bind (.pure _) fun _ => .bind (.record _ _) fun _ => .pure _
        · exact .bind (.throw _) fun _ => .bind (.record _ _) fun _ => .pure _

theorem loadEnvironment_reports (environment : List (String × String)) :
    (loadEnvironment environment).Reports := by
  unfold loadEnvironment
  split
  · exact .throw _
  · dsimp only
    split
    · exact .bind (.record _ _) fun _ => .pure _
    · exact .pure _

theorem load_reports (path : Option Path) (environment : List (String × String)) :
    (load path environment).Reports := by
  unfold load
  refine .bind (.bind (.record _ _) fun _ => .pure _) fun base => ?_
  dsimp only
  split
  · refine .bind (loadFile_reports _) fun file => .bind (loadEnvironment_reports environment) ?_
    intro layer
    split
    · exact .pure _
    · exact .throw _
  · refine .bind (.pure _) fun file => .bind (loadEnvironment_reports environment) fun layer => ?_
    split
    · exact .pure _
    · exact .throw _

/-- What is asked of settings: how strict checks are, and the mode. -/
def told (v : Value) : Option Value × Option Value :=
  (v.attribute? strictField, v.attribute? modeField)

end Settings

/-- What the active settings of a session tell, if they are there or can be loaded. -/
def Session.outlook (s : Session) : Except Fault (Option Value × Option Value) :=
  ((Settings.told <$> Settings.active).exec s).1

namespace Settings

theorem exec_active_of_some {s : Session} {v : Value} (h : s.active = some v) :
    active.exec s = (.ok v, s) := by
  unfold active
  rw [Run.exec_bind_of_ok (Run.exec_get s), h]
  rfl

/-- Settings that are not active yet are loaded: what comes of it is decided by the files and the
environment. -/
theorem exec_active_of_none (files : FileTree) (environment : List (String × String)) :
    ∃ (r : Except Fault Settings) (g : Journal → Journal), ∀ s : Session, s.active = none →
      s.files = files → s.environment = environment → active.exec s = match r with
        | .ok settings =>
          let v := settings.toValue (.loaded s.loads)
          (.ok v, { s with active := some v, loads := s.loads + 1, journal := g s.journal })
        | .error e => (.error e, { s with journal := g s.journal }) := by
  obtain ⟨r, g, loaded⟩ := load_reports none environment files
  refine ⟨r, g, fun s unset hfiles henvironment => ?_⟩
  subst hfiles henvironment
  have here := loaded s rfl
  rw [unset] at here
  unfold active
  rw [Run.exec_bind_of_ok (Run.exec_get s), unset]
  cases r with
  | ok settings => exact Run.exec_bind_of_ok here
  | error e => exact Run.exec_bind_of_error here

end Settings

theorem Session.outlook_of_some {s : Session} {v : Value} (h : s.active = some v) :
    s.outlook = .ok (Settings.told v) := by
  rw [outlook, Run.exec_map, Settings.exec_active_of_some h]

/-- What the settings tell is decided by the active ones, the files and the environment. -/
theorem Session.outlook_congr {s t : Session} (active : s.active = t.active)
    (files : s.files = t.files) (environment : s.environment = t.environment) :
    s.outlook = t.outlook := by
  cases given : s.active with
  | some v => rw [outlook_of_some given, outlook_of_some (active ▸ given)]
  | none =>
    obtain ⟨r, g, h⟩ := Settings.exec_active_of_none s.files s.environment
    rw [outlook, outlook, Run.exec_map, Run.exec_map, h s given rfl rfl,
      h t (active ▸ given) files.symm environment.symm]
    cases r <;> rfl

/-- **Asking for the active settings changes nothing about them.** They are loaded at most once, and
tell the same before and after. -/
theorem Settings.active_session (s : Session) : ∃ active loads journal,
    (Settings.active.exec s).2 = { s with active, loads, journal } ∧
      (Settings.active.exec s).2.outlook = s.outlook := by
  cases given : s.active with
  | some v =>
    rw [exec_active_of_some given]
    exact ⟨s.active, s.loads, s.journal, rfl, rfl⟩
  | none =>
    obtain ⟨r, g, h⟩ := exec_active_of_none s.files s.environment
    have here := h s given rfl rfl
    cases r with
    | ok settings =>
      refine ⟨some (settings.toValue (.loaded s.loads)), s.loads + 1, g s.journal, ?_, ?_⟩
      · rw [here]
      · rw [here, Session.outlook_of_some rfl, Session.outlook, Run.exec_map, here]
    | error e =>
      refine ⟨s.active, s.loads, g s.journal, ?_, ?_⟩
      · rw [here]
      · rw [here]
        exact Session.outlook_congr rfl rfl rfl

/-- Whether a run answers from what the active settings tell, and does nothing but ask for them. -/
def Settings.Asks {α : Type} (m : Run α) : Prop :=
  ∃ answer, ∀ s : Session, m.exec s = (s.outlook >>= answer, (Settings.active.exec s).2)

theorem Settings.asks_active_bind {α : Type} {k : Value → Run α}
    (answer : Option Value × Option Value → Except Fault α)
    (h : ∀ v, k v = Run.lift (answer (told v))) : Asks (active >>= k) := by
  refine ⟨answer, fun s => ?_⟩
  rw [Session.outlook, Run.exec_map, Run.exec_bind]
  rcases active.exec s with ⟨e | v, t⟩
  · rfl
  · dsimp only
    rw [h, Run.exec_lift]
    rfl

/-- How strict checks are, by the field that settings have for it. -/
def Settings.strictOf : Option Value → Except Fault Bool
  | some (.bool b) => .ok b
  | some .null => .ok false
  | some _ => .error .wrongType
  | none => .error .noAttribute

theorem Settings.activeStrict_asks : Asks activeStrict := by
  refine asks_active_bind (fun told => strictOf told.1) fun v => ?_
  dsimp only [told]
  cases v.attribute? strictField with
  | none => rfl
  | some w => cases w <;> rfl

/-- The mode of contracts that have none, by the field that settings have for it. -/
def Settings.modeOf : Option Value → Except Fault ModeChoice
  | some (.mode m) => .ok (.known m)
  | some .null => .ok .unset
  | some v => .ok (.foreign v)
  | none => .error .noAttribute

theorem Settings.activeMode_asks : Asks activeMode := by
  refine asks_active_bind (fun told => modeOf told.2) fun v => ?_
  dsimp only [told]
  cases v.attribute? modeField with
  | none => rfl
  | some w => cases w <;> rfl

end CallContract
