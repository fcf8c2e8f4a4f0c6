import CallContract.Journal.Configuration
import CallContract.Proofs.Running

/-!
# The journal over many configurations

To configure the journal is to attach a handler, if it has none, and to set its level; what is wrong
with the level is found only after the handler is there (`Setup.exec_cases`). So over any run of
configurations, whether they succeed or fail, the journal has at most the handler of the first one
whose layout can be had (`Setup.handlers_afterAll`), and one that succeeds sets the level that it
names. A configuration that fails changes nothing, but for one: if there was no handler and only the
level is wrong, the handler stays.
-/

namespace CallContract

/-- What the journal is configured with. -/
structure Setup where
  level : Value
  layout : Option String
  stream : String

/-- The level that a value is, or that it names: a text names one by its upper case. -/
inductive Value.NamesLevel : Value → Numeral → Prop
  | number (i : Int) : NamesLevel (.int i) (.whole i)
  | flag (b : Bool) : NamesLevel (.bool b) (.flag b)
  | name {v : Value} {s : String} {i : Int} (text : v.text? = some s)
      (known : (upperCase s, i) ∈ levelNames) : NamesLevel v (.whole i)

/-- No two levels have one name. -/
theorem lookup_levelNames {name : String} {i : Int} :
    levelNames.lookup name = some i ↔ (name, i) ∈ levelNames := by
  constructor
  · intro h
    obtain ⟨before, after, split, -⟩ := List.lookup_eq_some_iff.mp h
    rw [split]
    simp
  · intro h
    have named : ∀ e ∈ levelNames, levelNames.lookup e.1 = some e.2 := by decide
    exact named _ h

theorem readLevel_eq_ok_iff {v : Value} {n : Numeral} : readLevel v = .ok n ↔ v.NamesLevel n := by
  constructor
  · intro h
    unfold readLevel at h
    split at h
    · cases h
      exact .flag _
    · cases h
      exact .number _
    · split at h
      · cases h
      · next s text =>
        dsimp only at h
        split at h
        · next i found =>
          cases h
          exact .name text (lookup_levelNames.mp found)
        · cases h
  · intro h
    cases h with
    | number i => rfl
    | flag b => rfl
    | name text known =>
      unfold readLevel
      split
      · cases text
      · cases text
      · rw [text]
        dsimp only
        rw [lookup_levelNames.mpr known]

namespace Setup

/-- Configure the journal. -/
def run (c : Setup) : Run Unit := configureJournal c.level c.layout c.stream

/-- The session after a configuration, whether it succeeds or fails. -/
def after (c : Setup) (s : Session) : Session := (c.run.exec s).2

/-- The handler for a configuration, if its layout can be had. -/
def handler? (c : Setup) : Option Handler :=
  (Layout.ofText? (c.layout.getD Layout.standardText)).map (Handler.mk c.stream)

/-- The handlers that a journal has once a configuration has attached its own, if there was none. -/
def attached (c : Setup) (handlers : List Handler) : List Handler :=
  if handlers.isEmpty then c.handler?.toList else handlers

theorem attach_eq (c : Setup) (j : Journal) :
    j.attach c.layout c.stream =
      if (c.attached j.handlers).isEmpty then .error (.wrongValue "")
      else .ok { j with handlers := c.attached j.handlers } := by
  unfold Journal.attach attached handler?
  cases none : j.handlers.isEmpty with
  | true => cases Layout.ofText? (c.layout.getD Layout.standardText) <;> rfl
  | false =>
    simp only [Bool.false_eq_true, if_false, none]

/-- What a configuration comes to: there is no handler and nothing is changed, or there is one, and
the level is set or else the fault says what is wrong with it. -/
theorem exec_cases (c : Setup) (s : Session) :
    let handlers := c.attached s.journal.handlers
    (handlers = [] ∧ c.run.exec s = (.error (.wrongValue ""), s)) ∨
      handlers ≠ [] ∧
        ((∃ n, c.level.NamesLevel n ∧
          c.run.exec s = (.ok (), { s with journal := { s.journal with handlers, level := n } })) ∨
        (∀ n, ¬ c.level.NamesLevel n) ∧ ∃ e,
          c.run.exec s = (.error e, { s with journal := { s.journal with handlers } })) := by
  intro handlers
  unfold run configureJournal
  rw [Run.exec_bind_of_ok (Run.exec_get s), attach_eq]
  cases empty : handlers.isEmpty with
  | true => exact .inl ⟨List.isEmpty_iff.mp empty, rfl⟩
  | false =>
    refine .inr ⟨List.isEmpty_eq_false_iff.mp empty, ?_⟩
    cases read : readLevel c.level with
    | ok n => exact .inl ⟨n, readLevel_eq_ok_iff.mp read, rfl⟩
    | error e =>
      refine .inr ⟨fun n named => ?_, e, rfl⟩
      cases read.symm.trans (readLevel_eq_ok_iff.mpr named)

/-! ### Over a run -/

/-- The handlers after one configuration. -/
theorem handlers_after (c : Setup) (s : Session) :
    (c.after s).journal.handlers = c.attached s.journal.handlers := by
  unfold after
  rcases c.exec_cases s with ⟨none, exec⟩ | ⟨-, ⟨n, -, exec⟩ | ⟨-, e, exec⟩⟩
  · rw [exec, none]
    unfold attached at none
    split at none
    · next empty => exact List.isEmpty_iff.mp empty
    · exact none
  · rw [exec]
  · rw [exec]

/-- The session after many configurations. -/
def afterAll (s : Session) (setups : List Setup) : Session := setups.foldl (fun s c => c.after s) s

/-- A journal that has handlers keeps them. -/
theorem handlers_afterAll_of_some {s : Session} (some : s.journal.handlers ≠ [])
    (setups : List Setup) : (afterAll s setups).journal.handlers = s.journal.handlers := by
  induction setups generalizing s with
  | nil => rfl
  | cons c rest ih =>
    have kept : (c.after s).journal.handlers = s.journal.handlers := by
      rw [handlers_after, attached, List.isEmpty_eq_false_iff.mpr some, if_neg Bool.false_ne_true]
    show (afterAll (c.after s) rest).journal.handlers = _
    rw [ih (kept ▸ some), kept]

/-- A journal without handlers gets that of the first configuration whose layout can be had. -/
theorem handlers_afterAll {s : Session} (bare : s.journal.handlers = []) (setups : List Setup) :
    (afterAll s setups).journal.handlers = (setups.filterMap handler?).take 1 := by
  induction setups generalizing s with
  | nil => exact bare
  | cons c rest ih =>
    have here : (c.after s).journal.handlers = c.handler?.toList := by
      rw [handlers_after, bare]
      rfl
    show (afterAll (c.after s) rest).journal.handlers = _
    -- As long as no layout can be had, the journal stays without handlers.
    cases given : c.handler? with
    | none =>
      rw [List.filterMap_cons_none given]
      exact ih (by rw [here, given]; rfl)
    | some h =>
      rw [List.filterMap_cons_some given, List.take_succ_cons, List.take_zero]
      have one : (c.after s).journal.handlers = [h] := by rw [here, given]; rfl
      rw [handlers_afterAll_of_some (by rw [one]; nofun), one]

/-- **Many configurations of the journal.** However many configurations of a journal without
handlers succeed or fail, it never has more than one handler, that of the first configuration whose
layout can be had. Another configuration succeeds exactly if its level is one and there is a handler
by then; then the level is the one that it names. One that fails leaves the level alone. It changes
nothing at all if there was a handler or its layout is wrong, too; but in a journal without
handlers, one whose layout can be had leaves its handler there. -/
theorem configured_throughout {s : Session} (bare : s.journal.handlers = []) (setups : List Setup) :
    let t := afterAll s setups
    t.journal.handlers.length ≤ 1 ∧
      t.journal.handlers = (setups.filterMap handler?).take 1 ∧
      ∀ c : Setup,
        ((c.run.exec t).1 = .ok () ↔
          (∃ n, c.level.NamesLevel n) ∧ (t.journal.handlers ≠ [] ∨ c.handler? ≠ none)) ∧
        (∀ u, c.run.exec t = (.ok (), u) → c.level.NamesLevel u.journal.level) ∧
        ∀ e u, c.run.exec t = (.error e, u) →
          u.journal.level = t.journal.level ∧
          (t.journal.handlers ≠ [] ∨ c.handler? = none → u = t) ∧
          (t.journal.handlers = [] → ∀ h, c.handler? = some h → u.journal.handlers = [h]) := by
  intro t
  have handlers : t.journal.handlers = (setups.filterMap handler?).take 1 :=
    handlers_afterAll bare setups
  refine ⟨?_, handlers, fun c => ?_⟩
  · rw [handlers, List.length_take]
    exact Nat.min_le_left _ _
  have fits : c.attached t.journal.handlers ≠ [] ↔
      t.journal.handlers ≠ [] ∨ c.handler? ≠ none := by
    unfold attached
    cases t.journal.handlers <;> cases c.handler? <;> simp
  rcases c.exec_cases t with ⟨none, exec⟩ | ⟨there, ⟨n, named, exec⟩ | ⟨unnamed, e, exec⟩⟩
  · have unfit := mt fits.mpr (not_not_intro none)
    rw [exec]
    refine ⟨⟨nofun, fun ⟨_, ok⟩ => absurd ok unfit⟩, nofun, ?_⟩
    rintro _ _ ⟨⟩
    refine ⟨rfl, fun _ => rfl, fun _ h given => ?_⟩
    exact absurd (.inr (by rw [given]; nofun)) unfit
  · rw [exec]
    refine ⟨⟨fun _ => ⟨⟨n, named⟩, fits.mp there⟩, fun _ => rfl⟩, ?_, ?_⟩
    · rintro _ ⟨⟩
      exact named
    · rintro _ _ ⟨⟩
  · rw [exec]
    refine ⟨⟨nofun, fun ⟨⟨n, named⟩, _⟩ => absurd named (unnamed n)⟩, nofun, ?_⟩
    rintro _ _ ⟨⟩
    refine ⟨rfl, fun same => ?_, fun none h given => ?_⟩
    · have kept : c.attached t.journal.handlers = t.journal.handlers := by
        unfold attached at there ⊢
        split
        · next empty =>
          rcases same with some | missing
          · exact absurd (List.isEmpty_iff.mp empty) some
          · rw [if_pos empty, missing] at there
            exact absurd rfl there
        · rfl
      rw [kept]
    · show c.attached t.journal.handlers = [h]
      rw [none, attached, given]
      rfl

/-- Configurations with a level that there is not, with a layout that is none, and with good
parts. -/
def mixed : List Setup :=
  [⟨.text "info", some "no field", "a"⟩, ⟨.text "Chatty", none, "b"⟩, ⟨.text "warn", none, "c"⟩]

theorem configured_throughout_mixed :
    Session.start.journal.handlers = [] ∧
      (afterAll .start mixed).journal.handlers.map Handler.stream = ["b"] ∧
      ∀ u, (Setup.mk (.text "debug") none "d").run.exec (afterAll .start mixed) = (.ok (), u) →
        (Value.text "debug").NamesLevel u.journal.level := by
  obtain ⟨-, handlers, next⟩ := configured_throughout (s := .start) rfl mixed
  refine ⟨rfl, ?_, (next ⟨.text "debug", none, "d"⟩).2.1⟩
  rw [handlers]
  decide +kernel

/-- The first configuration has a level that there is not. It fails, and its handler stays. -/
theorem handler_stays :
    let c : Setup := ⟨.text "chatty", none, "a"⟩
    Session.start.journal.handlers.length = 0 ∧ (c.run.exec .start).1.isOk = false ∧
      (c.after .start).journal.handlers.length = 1 := by
  decide +kernel

end Setup

end CallContract
