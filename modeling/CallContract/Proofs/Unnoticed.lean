import CallContract.Proofs.Acting

/-!
# Replacements that fail

A replacement of the active settings that fails is not noticed later, except for what getting the
active settings leaves behind: with no base given, settings that are not there yet are loaded first,
and stay (`failed_replace_unnoticed`). Sessions that differ in their journals only cannot be told
apart by any history (`Act.outcomes_journal`).
-/

namespace CallContract

open Settings

/-- Whether two configurations differ in their journals only. -/
def Recorded (c c' : Configuration) : Prop := ∃ j, c' = { c with journal := j }

/-- No act notices what is in the journal. -/
theorem Recorded.lasting : Lasting Recorded where
  unrecorded := by
    rintro c _ j j' ⟨_, rfl⟩
    exact ⟨j', rfl⟩
  asked := by
    rintro s _ - ⟨j, rfl⟩
    let t : Session := { s with journal := j }
    change _ ∧ ∃ c', active.exec t = _ ∧ _
    cases given : s.active with
    | some v =>
      have there : t.active = some v := given
      rw [exec_active_of_some given, exec_active_of_some there]
      exact ⟨trivial, t.configuration, rfl, j, rfl⟩
    | none =>
      obtain ⟨r, g, exec⟩ := exec_active_of_none s.files s.environment
      rw [exec s given rfl rfl, exec t given rfl rfl]
      cases r <;> exact ⟨trivial, { Session.configuration _ with journal := g j }, rfl, _, rfl⟩
  replaced := by
    rintro c _ v ⟨j, rfl⟩
    exact ⟨j, rfl⟩
  environment := by
    rintro c _ texts ⟨j, rfl⟩
    exact ⟨j, rfl⟩
  files := by
    rintro c _ tree ⟨j, rfl⟩
    exact ⟨j, rfl⟩

/-- Sessions that differ in their journals only cannot be told apart. -/
theorem Act.outcomes_journal (s : Session) {acts : List Act} (harmless : ∀ a ∈ acts, a.Harmless)
    (depth : Nat) (j : Journal) :
    outcomes (callWithin depth) { s with journal := j } acts =
      outcomes (callWithin depth) s acts := by
  have related : Recorded s.configuration { s.configuration with journal := j } := ⟨j, rfl⟩
  refine outcomes_agree Recorded.lasting harmless (fun a _ _ => ?_) depth related
  rintro c _ ⟨j, rfl⟩
  exact ⟨j, rfl⟩

/-- Where there is nothing to load, getting the active settings leaves at most records. -/
theorem Settings.exec_active_unloaded {s : Session}
    (h : s.active ≠ none ∨ ∃ e, s.loadable = .error e) :
    ∃ j, (active.exec s).2 = { s with journal := j } := by
  rcases Option.eq_none_or_eq_some s.active with unset | ⟨v, given⟩
  · obtain ⟨e, fails⟩ := h.resolve_left fun loaded => loaded unset
    obtain ⟨journal, exec⟩ := exec_active_of_unset unset
    rw [exec, fails]
    exact ⟨journal, rfl⟩
  · rw [exec_active_of_some given]
    exact ⟨s.journal, rfl⟩

/-- **A replacement that fails is not noticed.** Whatever is done after it comes to the same as
without it, unless there is no base given and settings are loaded for it. These stay, and whatever
is done comes to the same as after getting the active settings. Only a value that is no settings and
is to be made active as it is, without overrides, is left out. -/
theorem failed_replace_unnoticed {base : Option Value} {overrides : List (String × Value)}
    (proper : overrides = [] → ∀ v, base = some v → (ofValue? v).isSome) {s : Session} {e : Fault}
    (failed : ((replace base overrides).exec s).1 = .error e) {acts : List Act}
    (harmless : ∀ a ∈ acts, a.Harmless) (depth : Nat) :
    let apply := callWithin depth
    let t := ((replace base overrides).exec s).2
    (base ≠ none ∨ s.active ≠ none ∨ (∃ f, s.loadable = .error f) →
      Act.outcomes apply t acts = Act.outcomes apply s acts) ∧
      (base = none →
        Act.outcomes apply t acts = Act.outcomes apply (Act.after apply s .settings) acts) := by
  intro apply t
  have left : t = ((start base).exec s).2 := replace_eq_error proper (Prod.ext failed rfl)
  refine ⟨fun nothing => ?_, fun notGiven => ?_⟩
  · cases base with
    | some v => rw [left, start, Run.exec_pure]
    | none =>
      obtain ⟨j, same⟩ := exec_active_unloaded (nothing.resolve_left fun given => given rfl)
      rw [left, start, same]
      exact Act.outcomes_journal s harmless depth j
  · rw [left, notGiven]
    rfl

/-- What is done in the example: the environment sets strictness, and the active settings are
got. -/
def laterSettings : List Act := [.environment [(strictVariable, "0")], .settings]

/-- The strictness that the last act answers. -/
def lastStrict? (answers : List (Except Fault Value × List Entry)) : Option Bool := do
  match (← answers.getLast?).1 with
  | .ok v => return (← ofValue? v).strict
  | .error _ => none

/-- **Settings that are loaded for a replacement that fails stay.** The environment is not asked
again. -/
theorem failed_replace_noticed :
    let failing := replace none [(strictField, .text "maybe")]
    (∃ e, (failing.exec .start).1 = .error e) ∧
      Act.outcomes (callWithin 1) (failing.exec .start).2 laterSettings ≠
        Act.outcomes (callWithin 1) .start laterSettings := by
  intro failing
  have fails : (failing.exec .start).1.isOk = false := by decide +kernel
  refine ⟨?_, fun same => ?_⟩
  · cases h : (failing.exec .start).1 with
    | error e => exact ⟨e, rfl⟩
    | ok v =>
      rw [h] at fails
      cases fails
  · have stays : lastStrict? (Act.outcomes (callWithin 1) (failing.exec .start).2 laterSettings) =
        some true := by decide +kernel
    have fresh : lastStrict? (Act.outcomes (callWithin 1) .start laterSettings) = some false := by
      decide +kernel
    rw [same, fresh] at stays
    cases stays

theorem failed_replace_unnoticed_strict :
    let s : Session := { Session.start with active := some (standard.toValue (.loaded 0)) }
    let failing := replace none [(strictField, .text "maybe")]
    Act.outcomes (callWithin 1) (failing.exec s).2 laterSettings =
      Act.outcomes (callWithin 1) s laterSettings := by
  intro s failing
  have fails : (failing.exec s).1.isOk = false := by decide +kernel
  cases failed : (failing.exec s).1 with
  | ok v =>
    rw [failed] at fails
    cases fails
  | error e =>
    have proper : [(strictField, Value.text "maybe")] = [] → ∀ v, (none : Option Value) = some v →
        (ofValue? v).isSome := nofun
    have harmless : ∀ a ∈ laterSettings, a.Harmless := by simp [laterSettings, Act.Harmless]
    exact (failed_replace_unnoticed proper failed harmless 1).1 (.inr (.inl nofun))

end CallContract
