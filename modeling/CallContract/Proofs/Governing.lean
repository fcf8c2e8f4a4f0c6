import CallContract.Proofs.Acting

/-!
# What becomes of the active settings

In every history the active settings are settings, if there are any. They change only when they are
loaded on first use, replaced, or forgotten (`Act.Law`). So the environment and the files do not
matter as long as there are active settings, and each field has the value that was given last.
-/

namespace CallContract

open Settings

/-- Whether the active settings of a session are settings, if there are any. -/
def Session.Configured (s : Session) : Prop :=
  s.active = none ∨ ∃ v st, s.active = some v ∧ ofValue? v = some st

namespace Act

/-- Whether an act puts nothing but settings in place of the active ones, and assigns to checked
functions only. -/
def Proper : Act → Prop
  | replace base _ => ∀ v, base = some v → (ofValue? v).isSome
  | assign v _ _ => v.IsChecked
  | _ => True

/-- What an act does to the active settings. A replacement that succeeds makes its answer active:
settings that are those of its base, the given one or else the active one, with the overrides put
over it. -/
def Law (apply : Caller) (s : Session) (a : Act) : Prop :=
  let t := a.after apply s
  match a with
  | reset => t.active = none
  | environment _ | files _ => t.active = s.active
  | replace base overrides =>
    match ((Settings.replace base overrides).exec s).1 with
    | .ok v => t.active = some v ∧ ∃ w old st,
        (base = some w ∨ base = none ∧ (Settings.active.exec s).1 = .ok w) ∧
          ofValue? w = some old ∧ ofValue? v = some st ∧ old.Overridden overrides st
    | .error _ => s.Asked t
  | _ => s.Asked t

theorem Proper.harmless {a : Act} (proper : a.Proper) : a.Harmless := by
  cases a <;> first | exact proper | trivial

end Act

/-- What settings are loaded as is settings. -/
theorem Session.Configured.asked {s t : Session} (configured : s.Configured) (asked : s.Asked t) :
    t.Configured := by
  rcases asked with same | ⟨-, st, n, -, now⟩
  · rwa [Configured, same]
  · exact .inr ⟨_, st, now, rfl⟩

/-- What is answered as the active settings is settings. -/
theorem Session.Configured.answers {s t : Session} (configured : s.Configured) {v : Value}
    (h : Settings.active.exec s = (.ok v, t)) : (ofValue? v).isSome := by
  have later : s.Asked t := by
    have later := (Session.Later.asked s).active
    rwa [h] at later
  rcases configured.asked later with none | ⟨w, st, active, settings⟩
  · rw [active_eq_ok h] at none
    cases none
  · rw [active_eq_ok h] at active
    cases active
    rw [settings]
    rfl

/-- **Each act keeps to the law** in a session whose active settings are settings. -/
theorem Act.law {s : Session} (configured : s.Configured) {a : Act} (proper : a.Proper)
    (depth : Nat) : a.Law (callWithin depth) s := by
  have later (uses : a.Uses) := (Act.later uses proper.harmless depth s).active
  cases a with
  | reset => exact rfl
  | environment texts => exact rfl
  | files tree => exact rfl
  | replace base overrides =>
    have started {w : Value} {u : Session} (h : (start base).exec s = (.ok w, u)) :
        (ofValue? w).isSome := by
      cases base with
      | none => exact configured.answers h
      | some v =>
        obtain ⟨rfl, -⟩ := Run.exec_pure_eq_ok.mp h
        exact proper v rfl
    unfold Law after run
    dsimp only
    rcases ran : (Settings.replace base overrides).exec s with ⟨e | v, t⟩
    · rw [replace_eq_error (fun _ => proper) ran]
      cases base with
      | none => exact (Session.Later.asked s).active
      | some v => exact .inl rfl
    · obtain ⟨active, w, old, st, begun, isOld, isNew, follows⟩ :=
        replace_eq_ok ran fun w u => started
      refine ⟨active, w, old, st, ?_, isOld, isNew, follows⟩
      cases base with
      | none => exact .inr ⟨rfl, begun⟩
      | some v => exact .inl (congrArg some (Except.ok.inj begun))
  | settings | extend _ _ | implement _ _ | validate _ _ _ | call _ _ _ | assign _ _ _ =>
    exact later trivial

/-- What the law allows is settings. -/
theorem Act.Law.configured {apply : Caller} {s : Session} {a : Act} (law : a.Law apply s)
    (configured : s.Configured) : (a.after apply s).Configured := by
  cases a with
  | reset => exact .inl law
  | environment texts => exact configured
  | files tree => exact configured
  | replace base overrides =>
    unfold Law at law
    dsimp only at law
    revert law
    rcases ((Settings.replace base overrides).exec s).1 with e | v
    · exact fun law => configured.asked law
    · rintro ⟨active, w, old, st, -, -, isNew, -⟩
      exact .inr ⟨v, st, active, isNew⟩
  | settings | extend _ _ | implement _ _ | validate _ _ _ | call _ _ _ | assign _ _ _ =>
    exact configured.asked law

/-- **In every history the active settings are settings**, if there are any. -/
theorem Session.Configured.history {s : Session} (configured : s.Configured) {acts : List Act}
    (proper : ∀ a ∈ acts, a.Proper) (depth : Nat) :
    (acts.foldl (Act.after (callWithin depth)) s).Configured := by
  induction acts generalizing s with
  | nil => exact configured
  | cons a rest ih =>
    obtain ⟨here, there⟩ := List.forall_mem_cons.mp proper
    exact ih ((Act.law configured here depth).configured configured) there

/-! ### As long as there are active settings -/

/-- Whether two configurations have the same active settings, and have some. -/
def SameActive (c c' : Configuration) : Prop := c'.active = c.active ∧ c.active ≠ none

/-- The same active settings stay the same, whatever the environment and the files are. -/
theorem SameActive.lasting : Lasting SameActive where
  unrecorded _ _ _ _ h := h
  asked := by
    rintro s c - ⟨same, loaded⟩
    obtain ⟨v, given⟩ := Option.ne_none_iff_exists'.mp loaded
    rw [exec_active_of_some (s := s) given,
      exec_active_of_some (s := s.withConfiguration c) (same.trans given)]
    exact ⟨trivial, c, rfl, same, loaded⟩
  replaced _ _ _ _ := ⟨rfl, nofun⟩
  environment _ _ _ h := h
  files _ _ _ h := h

/-- **The environment and the files do not matter as long as there are active settings.** -/
theorem Act.outcomes_of_active {s : Session} (loaded : s.active ≠ none) {acts : List Act}
    (harmless : ∀ a ∈ acts, a.Harmless) (kept : ∀ a ∈ acts, a ≠ .reset) (depth : Nat)
    (texts : List (String × String)) (tree : FileTree) :
    outcomes (callWithin depth) { s with environment := texts, files := tree } acts =
      outcomes (callWithin depth) s acts :=
  outcomes_agree SameActive.lasting harmless (fun a h isReset => absurd isReset (kept a h)) depth
    (c := { s.configuration with environment := texts, files := tree }) ⟨rfl, loaded⟩

/-! ### What is given last -/

namespace Act

/-- Whether an act neither forgets the active settings nor replaces them but by overrides. -/
def Overrides : Act → Prop
  | replace base _ => base = none
  | reset => False
  | assign v _ _ => v.IsChecked
  | _ => True

/-- The overrides of an act, if it is a replacement that succeeds. -/
def givenOnce (apply : Caller) (s : Session) (a : Act) : List (String × Value) :=
  match a, ((a.run apply).exec s).1 with
  | replace _ overrides, .ok _ => overrides
  | _, _ => []

/-- The overrides of the replacements in a history that succeed, in order. -/
def given (apply : Caller) : Session → List Act → List (String × Value)
  | _, [] => []
  | s, a :: rest => a.givenOnce apply s ++ given apply (a.after apply s) rest

theorem Overrides.proper {a : Act} (h : a.Overrides) : a.Proper := by
  cases a with
  | replace base overrides =>
    obtain rfl : base = none := h
    exact nofun
  | assign v name new => exact h
  | _ => trivial

/-- One act puts what it gives over the active settings. -/
theorem Overrides.after {a : Act} (h : a.Overrides) (depth : Nat) {s : Session} {v : Value}
    {old : Settings} (active : s.active = some v) (settings : ofValue? v = some old) :
    ∃ w st, (a.after (callWithin depth) s).active = some w ∧ ofValue? w = some st ∧
      old.Overridden (a.givenOnce (callWithin depth) s) st := by
  have law := Act.law (.inr ⟨v, old, active, settings⟩) h.proper depth
  have kept (asked : s.Asked (a.after (callWithin depth) s)) :
      (a.after (callWithin depth) s).active = some v := by
    rcases asked with same | ⟨none, -⟩
    · exact same.trans active
    · rw [active] at none
      cases none
  cases a with
  | reset => exact h.elim
  | replace base overrides =>
    obtain rfl : base = none := h
    unfold Law at law
    unfold givenOnce run
    dsimp only at law ⊢
    revert law
    rcases ((Settings.replace none overrides).exec s).1 with e | w
    · exact fun law => ⟨v, old, kept law, settings, .refl old⟩
    · rintro ⟨active', b, old', st, from_active, isOld, isNew, follows⟩
      have same : b = v := by
        rcases from_active with none | ⟨-, answered⟩
        · cases none
        · rw [exec_active_of_some active] at answered
          exact (Except.ok.inj answered).symm
      rw [same, settings] at isOld
      obtain rfl := Option.some.inj isOld
      exact ⟨w, st, active', isNew, follows⟩
  | environment texts => exact ⟨v, old, active, settings, .refl old⟩
  | files tree => exact ⟨v, old, active, settings, .refl old⟩
  | settings | extend _ _ | implement _ _ | validate _ _ _ | call _ _ _ | assign _ _ _ =>
    exact ⟨v, old, kept law, settings, .refl old⟩

/-- **Each field has the value given last.** In a history in which the active settings are not
forgotten, and not replaced by others as they are, what overrides give last counts. -/
theorem Overrides.history {acts : List Act} (h : ∀ a ∈ acts, a.Overrides) (depth : Nat)
    {s : Session} {v : Value} {old : Settings} (active : s.active = some v)
    (settings : ofValue? v = some old) :
    ∃ w st, (acts.foldl (Act.after (callWithin depth)) s).active = some w ∧ ofValue? w = some st ∧
      old.Overridden (given (callWithin depth) s acts) st := by
  induction acts generalizing s v old with
  | nil => exact ⟨v, old, active, settings, .refl old⟩
  | cons a rest ih =>
    obtain ⟨here, there⟩ := List.forall_mem_cons.mp h
    obtain ⟨w, st, active', settings', follows⟩ := here.after depth active settings
    obtain ⟨w', st', active'', settings'', follows'⟩ := ih there active' settings'
    exact ⟨w', st', active'', settings'', follows.trans follows'⟩

end Act

/-- **The law of the active settings.** At every point of a history they are settings, if there are
any. An act changes them only by loading them on first use, by replacing them, or by forgetting
them; what replaces them has the fields of its base but for those that are overridden. As long as
there are some, whatever follows does not depend on the environment and the files, and each field
has the value that was given for it last. -/
theorem active_governed (depth : Nat) {s : Session} (configured : s.Configured)
    {acts : List Act} (proper : ∀ a ∈ acts, a.Proper) :
    let apply := callWithin depth
    let t := acts.foldl (Act.after apply) s
    t.Configured ∧ (∀ a : Act, a.Proper → a.Law apply t) ∧
      (∀ later : List Act, t.active ≠ none → (∀ a ∈ later, a.Proper ∧ a ≠ .reset) →
        ∀ texts tree, Act.outcomes apply { t with environment := texts, files := tree } later =
          Act.outcomes apply t later) ∧
      ∀ (later : List Act) v old, t.active = some v → ofValue? v = some old →
        (∀ a ∈ later, a.Overrides) →
          ∃ w st, (later.foldl (Act.after apply) t).active = some w ∧ ofValue? w = some st ∧
            old.Overridden (Act.given apply t later) st := by
  intro apply t
  have here : t.Configured := configured.history proper depth
  refine ⟨here, fun a ok => Act.law here ok depth, fun later loaded ok texts tree => ?_, ?_⟩
  · exact Act.outcomes_of_active loaded (fun a ha => (ok a ha).1.harmless)
      (fun a ha => (ok a ha).2) depth texts tree
  · exact fun later v old active settings ok => Act.Overrides.history ok depth active settings

/-- A history in which checks are made less strict, and the environment is changed after that. -/
def relaxing : List Act :=
  [.replace none [(strictField, .text "off")], .environment [(modeVariable, "none")]]

theorem active_governed_relaxing :
    let t := relaxing.foldl (Act.after (callWithin 1)) .start
    let later : List Act := [.settings, .replace none [(modeField, .text "Args")]]
    t.active.bind ofValue? = some ⟨.both, false⟩ ∧
      ∃ w st, (later.foldl (Act.after (callWithin 1)) t).active = some w ∧ ofValue? w = some st ∧
        (Settings.mk .both false).Overridden (Act.given (callWithin 1) t later) st := by
  intro t later
  have now : t.active.bind ofValue? = some ⟨.both, false⟩ := by decide +kernel
  obtain ⟨v, active, settings⟩ := Option.bind_eq_some_iff.mp now
  have proper : ∀ a ∈ relaxing, a.Proper := by simp [relaxing, Act.Proper]
  have overrides : ∀ a ∈ later, a.Overrides := by simp [later, Act.Overrides]
  obtain ⟨-, -, -, last⟩ := active_governed 1 (s := .start) (.inl rfl) proper
  exact ⟨now, last later v ⟨.both, false⟩ active settings overrides⟩

end CallContract
