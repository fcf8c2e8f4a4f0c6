import CallContract.Proofs.Constructing
import CallContract.Proofs.Replacing
import CallContract.Text.LowerCase

/-!
# The names of modes

A text names a mode if it is the mode's word once the blanks around it are gone and it is put in
lower case (`Mode.Named`). Letters outside of ASCII have no part in that (`lowerFrom_eq_iff`). There
are many ways to give a mode by a text (`ModeSource`): in building a contract, in settings, in an
environment from which settings are loaded. Each needs other things as well (`ModeSource.Needs`),
but takes the same texts (`ModeSource.accepts_iff_needs`). A function whose mode was given in any of
these ways has the gates of the mode that the text names (`ModeSource.function_gated`).
-/

namespace CallContract

/-! ### Lower case -/

/-- The characters of ASCII that are the lower case of characters of ASCII only. -/
def IsPlain (c : Char) : Prop := c.toNat < 128 ∧ c ≠ 'i' ∧ c ≠ 'k'

instance (c : Char) : Decidable (IsPlain c) := inferInstanceAs (Decidable (_ ∧ _))

/-- A run of letters ends within ASCII, or its lower case begins after it; only the sign for kelvin
has a lower case in ASCII. -/
theorem lowerRuns_beyond : ∀ r ∈ lowerRuns, r.last < 128 ∨
    (128 ≤ r.first + r.shift ∧ r.last + r.shift < 0xD800) ∨
    (0xDFFF < r.first + r.shift ∧ r.last + r.shift < 0x110000) ∨
    r.first = r.last ∧ r.first + r.shift = 107 := by
  decide +kernel

/-- What a character outside of ASCII becomes in lower case does not begin plainly. -/
theorem lowerChar_beyond (before after : List Char) {c : Char} (beyond : ¬ c.toNat < 128) :
    ∃ d ds, lowerChar before c after = d :: ds ∧ ¬ IsPlain d := by
  unfold lowerChar
  dsimp only
  rw [if_neg beyond]
  -- A sigma, the capital I with a dot, a letter of a run, and all that stays as it is.
  split
  · split <;> exact ⟨_, _, rfl, by decide⟩
  · split
    · exact ⟨_, _, rfl, by decide⟩
    · split
      · next r found =>
        refine ⟨_, _, rfl, ?_⟩
        have within := List.find?_some found
        simp only [Bool.and_eq_true, decide_eq_true_eq] at within
        obtain ⟨⟨first, last⟩, -⟩ := within
        have away (n : Nat) (valid : n.isValidChar) (after : 128 ≤ n) : ¬ IsPlain (.ofNat n) := by
          rintro ⟨h, -⟩
          rw [Char.ofNat, dif_pos valid] at h
          exact Nat.not_lt.mpr after h
        rcases lowerRuns_beyond r (List.mem_of_find?_eq_some found) with
          low | ⟨low, high⟩ | ⟨low, high⟩ | ⟨alone, kelvin⟩
        · omega
        · exact away _ (.inl (by omega)) (by omega)
        · exact away _ (.inr ⟨by omega, by omega⟩) (by omega)
        · obtain same : (c.toNat + r.shift).toNat = 107 := by omega
          rw [same]
          decide
      · exact ⟨c, [], rfl, fun plain => beyond plain.1⟩

theorem toLower_beyond {c : Char} (beyond : ¬ c.toNat < 128) : c.toLower = c := by
  unfold Char.toLower
  refine dif_neg fun upper => ?_
  have last : c.toNat ≤ 90 := UInt32.le_iff_toNat_le.mp upper.2
  omega

/-- Plain characters are the lower case of a text exactly if putting just the letters of ASCII in
lower case gives them. -/
theorem lowerFrom_eq_iff {cs ds : List Char} (plain : ∀ d ∈ ds, IsPlain d) (before : List Char) :
    lowerFrom before cs = ds ↔ cs.map Char.toLower = ds := by
  -- The letters before a sigma decide on its lower case, so they vary along the text.
  induction cs generalizing before ds with
  | nil => rfl
  | cons c cs ih =>
    rw [lowerFrom, List.map_cons]
    by_cases beyond : c.toNat < 128
    · rw [show lowerChar before c cs = [c.toLower] from if_pos beyond]
      cases ds with
      | nil => exact ⟨nofun, nofun⟩
      | cons d ds =>
        rw [List.singleton_append, List.cons.injEq, List.cons.injEq,
          ih (List.forall_mem_cons.mp plain).2]
    · obtain ⟨d, more, lower, odd⟩ := lowerChar_beyond before cs beyond
      rw [lower, toLower_beyond beyond]
      constructor
      · rintro rfl
        exact absurd (plain d List.mem_cons_self) odd
      · rintro rfl
        exact absurd (plain c List.mem_cons_self).1 beyond

/-! ### Names -/

/-- Whether a text names a mode: without the blanks around it and in lower case, it is the word of
the mode. -/
def Mode.Named (m : Mode) (s : String) : Prop :=
  lowerCase (String.ofList (trimBy isBlank s.toList)) = m.word

instance (m : Mode) (s : String) : Decidable (m.Named s) := inferInstanceAs (Decidable (_ = _))

/-- It makes no difference that only letters of ASCII are put in lower case when a mode is read. -/
theorem Mode.named_iff {m : Mode} {s : String} : m.Named s ↔ ofText? s = some m := by
  have plain : ∀ d ∈ m.word.toList, IsPlain d := by
    cases m <;> simp [word] <;> decide
  rw [ofText?_eq_some_iff, ← lowerFrom_eq_iff plain [], Named, lowerCase, String.toList_ofList,
    ← String.toList_inj, String.toList_ofList]

theorem Mode.named_word (m : Mode) : m.Named m.word := by
  refine named_iff.mpr (ofText?_eq_some_iff.mpr ?_)
  cases m <;> decide

theorem Mode.Named.ne_empty {m : Mode} {s : String} (named : m.Named s) : s ≠ "" := by
  rintro rfl
  cases m <;> exact absurd named (by decide)

theorem Mode.Named.asMode {m : Mode} {s : String} (named : m.Named s) :
    (Value.text s).asMode = .ok m := by
  rw [Value.asMode_text, named_iff.mp named]

/-- A text is read as a mode exactly if it names it. -/
theorem Value.asMode_text_eq_ok {s : String} {m : Mode} :
    (text s).asMode = .ok m ↔ m.Named s := by
  refine ⟨fun read => ?_, Mode.Named.asMode⟩
  rw [asMode_text] at read
  cases named : Mode.ofText? s with
  | none =>
    rw [named] at read
    cases read
  | some m' =>
    rw [named] at read
    cases read
    exact Mode.named_iff.mpr named

namespace Settings

/-! ### A mode among entries -/

/-- Entries that set a mode over others are read exactly if the mode can be read and all else can.
-/
theorem ofEntries_overlay_mode {lower rest : List (Value × Value)} {v : Value} {st : Settings}
    (free : field? modeField rest = none) :
    ofEntries (overlay lower ((.text modeField, v) :: rest)) = .ok st ↔
      v.asMode = .ok st.mode ∧
        readField (overlay lower rest) strictField standard.strict readStrict = .ok st.strict ∧
        Fits lower ∧ Fits rest := by
  have laid : overlay lower ((.text modeField, v) :: rest) =
      overlay (putEntry lower (.text modeField) v) rest := rfl
  have mode : lookupEntry (.text modeField) (overlay lower ((.text modeField, v) :: rest)) =
      some v := by
    rw [laid, lookupEntry_overlay, lookupEntry_putEntry, free]
    rfl
  have strict : lookupEntry (.text strictField) (overlay lower ((.text modeField, v) :: rest)) =
      lookupEntry (.text strictField) (overlay lower rest) := by
    rw [laid, lookupEntry_overlay, lookupEntry_overlay, lookupEntry_putEntry]
    rfl
  have known : IsField (.text modeField) := .inl rfl
  rw [ofEntries_eq_ok_iff, readField, mode, readField, strict, laid, fits_overlay, fits_putEntry,
    and_iff_left known, ← readField]
  dsimp only
  rw [readMode_eq_ok_iff]

/-- A mode alone is read, with the standard strictness. -/
theorem ofEntries_mode {v : Value} {st : Settings} :
    ofEntries [(.text modeField, v)] = .ok st ↔
      v.asMode = .ok st.mode ∧ st.strict = standard.strict := by
  have laid := @ofEntries_overlay_mode [] [] v st rfl
  have none : Fits [] := nofun
  refine laid.trans (and_congr_right fun _ => (and_iff_left ⟨none, none⟩).trans ?_)
  exact ⟨fun h => (Except.ok.inj h).symm, fun h => congrArg Except.ok h.symm⟩

/-- An environment with the variable for the mode set. -/
def withMode (environment : List (String × String)) (s : String) : List (String × String) :=
  (modeVariable, s) :: without environment modeVariable

theorem setting?_withMode {s : String} (environment : List (String × String))
    {name : String} (other : name ≠ modeVariable) :
    setting? (withMode environment s) name = setting? environment name := by
  have absent : (name == modeVariable) = false := beq_eq_false_iff_ne.mpr other
  have rest := setting?_without environment modeVariable name
  rw [if_neg other] at rest
  rw [← rest, setting?, setting?, withMode, List.lookup_cons, absent]

theorem userFile?_withMode (path : Option Path) (environment : List (String × String))
    (s : String) : userFile? path (withMode environment s) = userFile? path environment := by
  rw [userFile?, userFile?, setting?_withMode environment (by decide)]

/-- The part of the layer of the environment that is for strictness. -/
def strictLayer (environment : List (String × String)) :
    Except ConfigCause (List (Value × Value)) :=
  match setting? environment strictVariable with
  | none => .ok []
  | some w =>
    match switch? w with
    | some b => .ok [(.text strictField, .bool b)]
    | none => .error (.strictNotBoolean (quoted w))

theorem setting?_withMode_self {s : String} (nonempty : s ≠ "")
    (environment : List (String × String)) :
    setting? (withMode environment s) modeVariable = some s := by
  rw [setting?, withMode, List.lookup_cons, beq_self_eq_true]
  exact if_pos (by simpa using nonempty)

theorem strictLayer_fields {environment : List (String × String)} {rest : List (Value × Value)}
    (given : strictLayer environment = .ok rest) : field? modeField rest = none ∧ Fits rest := by
  unfold strictLayer at given
  cases set : setting? environment strictVariable with
  | none =>
    rw [set] at given
    cases given
    exact ⟨rfl, nofun⟩
  | some w =>
    rw [set] at given
    cases word : switch? w with
    | none => simp [word] at given
    | some b =>
      simp only [word, Except.ok.injEq] at given
      subst given
      refine ⟨?_, List.forall_mem_singleton.mpr (.inr rfl)⟩
      simp [field?, lookupEntry_text, Value.text?, modeField, strictField]

theorem environmentLayer_withMode {s : String} (nonempty : s ≠ "")
    (environment : List (String × String)) :
    environmentLayer (withMode environment s) =
      (strictLayer environment).map ((.text modeField, .text s) :: ·) := by
  unfold environmentLayer strictLayer
  rw [setting?_withMode_self nonempty, setting?_withMode environment (by decide)]
  cases setting? environment strictVariable with
  | none => rfl
  | some w =>
    dsimp only
    cases switch? w <;> rfl

/-- What is loaded apart from the mode: the file in use, if there is one, and the variable for
strictness decide it. -/
def LoadsElse (path : Option Path) (environment : List (String × String)) (s : Session)
    (strict : Bool) : Prop :=
  ∃ file t layer,
    (match userFile? path environment with
      | some p => loadFile p
      | none => pure []).exec (loadStandard.exec s).2 = (.ok file, t) ∧
    strictLayer environment = .ok layer ∧
    readField (overlay (overlay standardLayer file) layer) strictField standard.strict readStrict =
      .ok strict ∧
    Fits (overlay standardLayer file) ∧ Fits layer

/-- With a text in the variable for the mode, loading goes well exactly if it names a mode and all
else can be loaded. -/
theorem load_withMode_eq_ok {text : String} (nonempty : text ≠ "") {path : Option Path}
    {environment : List (String × String)} {s : Session} {st : Settings} :
    ((load path (withMode environment text)).exec s).1 = .ok st ↔
      st.mode.Named text ∧ LoadsElse path environment s st.strict := by
  have layered := environmentLayer_withMode nonempty environment
  rw [exec_load, userFile?_withMode, ← Value.asMode_text_eq_ok]
  constructor
  · intro loaded
    obtain ⟨file, t, staged, merged⟩ := Run.exec_bind_eq_ok.mp (Prod.ext loaded rfl)
    obtain ⟨_, whole, read⟩ := (exec_mergeLayers_fst ..).mp (congrArg Prod.fst merged)
    obtain ⟨layer, given, rfl⟩ := map_eq_ok.mp (layered.symm.trans whole)
    obtain ⟨mode, others⟩ := (ofEntries_overlay_mode (strictLayer_fields given).1).mp read
    exact ⟨mode, file, t, layer, staged, given, others⟩
  · rintro ⟨mode, file, t, layer, staged, given, others⟩
    have whole := layered.trans (map_eq_ok.mpr ⟨layer, given, rfl⟩)
    refine (congrArg Prod.fst (Run.exec_bind_of_ok staged)).trans ?_
    refine (exec_mergeLayers_fst ..).mpr ⟨_, whole, ?_⟩
    exact (ofEntries_overlay_mode (strictLayer_fields given).1).mpr ⟨mode, others⟩

end Settings

/-! ### The ways to give a mode -/

/-- A way to give a mode by a text. -/
inductive ModeSource where
  /-- A step in the building of a contract. -/
  | step (c : Contract)
  /-- Beside the other parts of a contract. -/
  | parts (args returns : Option Value)
  /-- Beside the other parts of a contract and its implementation. -/
  | whole (args returns : Option Value)
  /-- A field of new settings. -/
  | settings
  /-- An override of settings. -/
  | override (base : Option Value)
  /-- A variable of the environment that settings are loaded from. -/
  | load (path : Option Path) (environment : List (String × String))
  /-- A variable of the environment of a session that has no settings yet. -/
  | session

namespace ModeSource

/-- What a mode that is given by a text comes to. -/
def take (text : String) : ModeSource → Run Value
  | .step c => Value.contract <$> Run.lift (c.withMode (.text text))
  | .parts args returns | .whole args returns => Contract.make args returns .null (.text text)
  | .settings => Settings.make [(Settings.modeField, .text text)]
  | .override base => Settings.replace base [(Settings.modeField, .text text)]
  | .load path environment =>
    Settings.load path (Settings.withMode environment text) >>= Settings.allocate
  | .session => do
    modify fun s => { s with environment := Settings.withMode s.environment text, active := none }
    Settings.active

/-- Give a mode by a text, and come to the contract that it is for, or to one without a mode after
the settings have been made the active ones. -/
def ready (text : String) (bare : Contract) : ModeSource → Run Contract
  | .step c => Run.lift (c.withMode (.text text))
  | .parts args returns | .whole args returns =>
    Run.lift (Contract.given args returns (.text text))
  | .settings => do
    let v ← take text .settings
    let _ ← Settings.replace (some v) []
    return bare
  | .override base => take text (.override base) >>= fun _ => pure bare
  | .load path environment => do
    let v ← take text (.load path environment)
    let _ ← Settings.replace (some v) []
    return bare
  | .session => take text .session >>= fun _ => pure bare

/-- Make a function whose mode is given by a text. Other steps may follow before the contract gets
its implementation, unless that is given with all else. -/
def function (text : String) (bare : Contract) (later : Contract → Contract) (f : Value) :
    ModeSource → Run Value
  | .whole args returns => Contract.make args returns f (.text text)
  | source => source.ready text bare >>= fun c => (later c).implement f

/-- Whether a text is accepted as a mode in a session. -/
def Accepts (source : ModeSource) (text : String) (s : Session) : Prop :=
  ∃ v, ((source.take text).exec s).1 = .ok v

/-- Whether the word of some mode is accepted, so that there is nothing else to refuse. -/
def Open (source : ModeSource) (s : Session) : Prop := ∃ m : Mode, source.Accepts m.word s

/-! ### What is accepted is a name -/

/-- Whether a value is settings with a mode that a text names. -/
def Sets (text : String) (v : Value) : Prop :=
  ∃ st, Settings.ofValue? v = some st ∧ st.mode.Named text

/-- Whether a run comes to a contract that has a mode by then which a text names. -/
def Readies (text : String) (r : Except Fault Contract × Session) : Prop :=
  ∃ (m : Mode) (c : Contract) (t : Session), m.Named text ∧ r = (.ok c, t) ∧
    (c.resolvedMode.exec t).1 = .ok (.known m)

/-- Active settings settle the mode of a contract that has none. -/
theorem readies_of_active {text : String} {bare : Contract} (unset : bare.mode = .unset)
    {t : Session} {v : Value} (active : t.active = some v) (sets : Sets text v) :
    Readies text ((pure bare : Run Contract).exec t) := by
  obtain ⟨st, settings, named⟩ := sets
  refine ⟨st.mode, bare, t, named, rfl, ?_⟩
  obtain ⟨l, fields, rfl⟩ := Settings.ofValue?_eq_some_iff.mp settings
  rw [Contract.resolvedMode, unset]
  dsimp only
  rw [Settings.activeMode, Run.exec_bind_of_ok (Settings.exec_active_of_some active)]
  rfl

/-- So do settings that are made the active ones. -/
theorem readies_of_adopted {text : String} {bare : Contract} (unset : bare.mode = .unset)
    {t : Session} {v : Value} (sets : Sets text v) :
    Readies text ((Settings.replace (some v) [] >>= fun _ => pure bare).exec t) := by
  obtain ⟨st, settings, named⟩ := sets
  obtain ⟨journal, ran⟩ := Settings.exec_put settings t
  have adopted : (Settings.replace (some v) []).exec t =
      (.ok v, { t with active := some v, journal }) := by
    rw [Settings.replace_eq]
    exact ran
  rw [Run.exec_bind_of_ok adopted]
  exact readies_of_active unset rfl ⟨st, settings, named⟩

/-- What follows a run that may fail. -/
theorem readies_of_bind {text : String} {a : Run Value} {k : Value → Run Contract} {s : Session}
    (follows : ∀ v t, a.exec s = (.ok v, t) → Readies text ((k v).exec t)) :
    (¬ (∃ v, (a.exec s).1 = .ok v) ∧ ∃ e t, (a >>= k).exec s = (.error e, t)) ∨
      ((∃ v, (a.exec s).1 = .ok v) ∧ Readies text ((a >>= k).exec s)) := by
  rw [Run.exec_bind]
  rcases ran : a.exec s with ⟨e | v, t⟩
  · exact .inl ⟨nofun, e, t, rfl⟩
  · exact .inr ⟨⟨v, rfl⟩, follows v t ran⟩

/-- A session that has no settings yet loads them from its environment when they are asked for. -/
theorem exec_session (text : String) (s : Session) :
    let environment := Settings.withMode s.environment text
    ∃ journal, (take text .session).exec s =
      match ((Settings.load none environment).exec s).1 with
      | .ok st =>
        let v := st.toValue (.loaded s.loads)
        (.ok v, { s with environment, active := some v, loads := s.loads + 1, journal })
      | .error e => (.error e, { s with environment, active := none, journal }) := by
  intro environment
  obtain ⟨r, g, loaded⟩ := Settings.load_reports none environment s.files
  have later := loaded { s with environment, active := none } rfl
  refine ⟨g s.journal, ?_⟩
  rw [loaded s rfl, take, Run.exec_bind_of_ok (Run.exec_modify ..), Settings.active,
    Run.exec_bind_of_ok (Run.exec_get _)]
  dsimp only
  cases r with
  | ok st => exact Run.exec_bind_of_ok later
  | error e => exact Run.exec_bind_of_error later

section Taken

variable {text : String} {s t : Session} {v : Value}

theorem sets_of_settings (taken : (take text .settings).exec s = (.ok v, t)) : Sets text v := by
  rw [take, Settings.make, List.map_cons, List.map_nil] at taken
  cases read : Settings.ofEntries [(.text Settings.modeField, .text text)] with
  | error issues =>
    rw [read] at taken
    cases taken
  | ok st =>
    rw [read] at taken
    cases taken
    exact ⟨st, rfl, Value.asMode_text_eq_ok.mp (Settings.ofEntries_mode.mp read).1⟩

theorem sets_of_override {base : Option Value}
    (taken : (take text (.override base)).exec s = (.ok v, t)) :
    t.active = some v ∧ Sets text v := by
  rw [take, Settings.replace_eq] at taken
  obtain ⟨b, u, -, replaced⟩ := Run.exec_bind_eq_ok.mp taken
  obtain ⟨new, u', ran, put⟩ := Run.exec_bind_eq_ok.mp replaced
  rcases Settings.exec_override b [(Settings.modeField, .text text)] u with
    ⟨e, failed⟩ | ⟨⟨⟩, -⟩ | ⟨old, st, -, follows, made⟩
  · cases failed.symm.trans ran
  · cases made.symm.trans ran
    obtain ⟨journal, done⟩ := Settings.exec_put (Settings.ofValue?_toValue st (.numbered u.next))
      { u with next := u.next + 1 }
    cases done.symm.trans put
    exact ⟨rfl, st, rfl, Value.asMode_text_eq_ok.mp follows.mode⟩

theorem sets_of_load (nonempty : text ≠ "") {path : Option Path}
    {environment : List (String × String)}
    (taken : (take text (.load path environment)).exec s = (.ok v, t)) : Sets text v := by
  obtain ⟨st, u, loaded, allocated⟩ := Run.exec_bind_eq_ok.mp taken
  cases allocated
  exact ⟨st, rfl, ((Settings.load_withMode_eq_ok nonempty).mp (congrArg Prod.fst loaded)).1⟩

theorem sets_of_session (nonempty : text ≠ "") (taken : (take text .session).exec s = (.ok v, t)) :
    t.active = some v ∧ Sets text v := by
  obtain ⟨journal, ran⟩ := exec_session text s
  rw [ran] at taken
  cases loaded : ((Settings.load none (Settings.withMode s.environment text)).exec s).1 with
  | error e =>
    rw [loaded] at taken
    cases taken
  | ok st =>
    rw [loaded] at taken
    cases taken
    exact ⟨rfl, st, rfl, ((Settings.load_withMode_eq_ok nonempty).mp loaded).1⟩

end Taken

/-- A text that is not accepted comes to nothing. One that is accepted names a mode, and comes to
a contract that has this mode by then. -/
theorem ready_cases {text : String} (nonempty : text ≠ "") (source : ModeSource) {bare : Contract}
    (unset : bare.mode = .unset) (s : Session) :
    (¬ source.Accepts text s ∧ ∃ e t, (source.ready text bare).exec s = (.error e, t)) ∨
      (source.Accepts text s ∧ Readies text ((source.ready text bare).exec s)) := by
  cases source with
  | step c =>
    rw [Accepts, take, ready, Run.exec_map_fst, Run.exec_lift, Contract.withMode_eq]
    cases read : (Value.text text).asMode with
    | error e => exact .inl ⟨nofun, e, s, rfl⟩
    | ok m => exact .inr ⟨⟨_, rfl⟩, m, _, s, Value.asMode_text_eq_ok.mp read, rfl, rfl⟩
  | parts args returns | whole args returns =>
    rw [Accepts, take, ready, Contract.make_eq_finish, Run.exec_bind]
    simp only [Run.exec_lift]
    cases given : Contract.given args returns (.text text) with
    | error e => exact .inl ⟨nofun, e, s, rfl⟩
    | ok c =>
      obtain ⟨schema, -, ⟨⟨⟩, -⟩ | ⟨m, read, rfl⟩⟩ := Contract.given_eq_ok.mp given
      exact .inr ⟨⟨_, rfl⟩, m, _, s, Value.asMode_text_eq_ok.mp read, rfl, rfl⟩
  | settings =>
    exact readies_of_bind fun v t taken => readies_of_adopted unset (sets_of_settings taken)
  | load path environment =>
    exact readies_of_bind fun v t taken => readies_of_adopted unset (sets_of_load nonempty taken)
  | override base =>
    refine readies_of_bind fun v t taken => ?_
    obtain ⟨active, sets⟩ := sets_of_override taken
    exact readies_of_active unset active sets
  | session =>
    refine readies_of_bind fun v t taken => ?_
    obtain ⟨active, sets⟩ := sets_of_session nonempty taken
    exact readies_of_active unset active sets

theorem named_of_accepts {text : String} (nonempty : text ≠ "") {source : ModeSource} {s : Session}
    (accepted : source.Accepts text s) : ∃ m : Mode, m.Named text := by
  have unset : Contract.empty.mode = .unset := rfl
  rcases ready_cases nonempty source unset s with
    ⟨refused, -⟩ | ⟨-, m, -, -, named, -⟩
  · exact absurd accepted refused
  · exact ⟨m, named⟩

/-! ### Names are accepted -/

/-- What a way to give a mode needs besides a mode. -/
def Needs (s : Session) : ModeSource → Prop
  | .step _ => True
  | .parts args _ | .whole args _ => ∃ schema, Contract.givenArgs args = .ok schema
  | .settings => True
  | .override base => ∃ b t st, (Settings.start base).exec s = (.ok b, t) ∧
    Settings.ofValue? b = some st
  | .load path environment => ∃ strict, Settings.LoadsElse path environment s strict
  | .session => ∃ strict, Settings.LoadsElse none s.environment s strict

/-- What is accepted comes to a value, and finds what it needs. -/
theorem needs_of_take {text : String} (nonempty : text ≠ "") {source : ModeSource} {s t : Session}
    {v : Value} (taken : (source.take text).exec s = (.ok v, t)) : source.Needs s := by
  cases source with
  | step c | settings => trivial
  | parts args returns | whole args returns =>
    rw [take, Contract.make_eq_finish] at taken
    obtain ⟨c, t, given, -⟩ := Run.exec_bind_eq_ok.mp taken
    rw [Run.exec_lift] at given
    obtain ⟨schema, fits, -⟩ := Contract.given_eq_ok.mp (congrArg Prod.fst given)
    exact ⟨schema, fits⟩
  | override base =>
    rw [take, Settings.replace_eq] at taken
    obtain ⟨b, t, begun, replaced⟩ := Run.exec_bind_eq_ok.mp taken
    obtain ⟨new, u, ran, -⟩ := Run.exec_bind_eq_ok.mp replaced
    rcases Settings.exec_override b [(Settings.modeField, .text text)] t with
      ⟨e, failed⟩ | ⟨⟨⟩, -⟩ | ⟨old, -, settings, -, -⟩
    · cases failed.symm.trans ran
    · exact ⟨b, t, old, begun, settings⟩
  | load path environment =>
    obtain ⟨st, t, loaded, -⟩ := Run.exec_bind_eq_ok.mp taken
    exact ⟨_, ((Settings.load_withMode_eq_ok nonempty).mp (congrArg Prod.fst loaded)).2⟩
  | session =>
    obtain ⟨journal, ran⟩ := exec_session text s
    cases loaded : ((Settings.load none (Settings.withMode s.environment text)).exec s).1 with
    | error e =>
      rw [loaded] at ran
      cases ran.symm.trans taken
    | ok st => exact ⟨_, ((Settings.load_withMode_eq_ok nonempty).mp loaded).2⟩

/-- A mode is put over settings. -/
theorem exec_override_of_named {m : Mode} {text : String} (named : m.Named text) {b : Value}
    {old : Settings} (settings : Settings.ofValue? b = some old) (s : Session) :
    (Settings.override b [(Settings.modeField, .text text)]).exec s =
      (.ok (Settings.toValue ⟨m, old.strict⟩ (.numbered s.next)),
        { s with next := s.next + 1 }) := by
  obtain ⟨l, fields, rfl⟩ := Settings.ofValue?_eq_some_iff.mp settings
  have read : Settings.ofEntries (Settings.overlay old.toEntries
      (Settings.overrideLayer [(Settings.modeField, .text text)])) = .ok ⟨m, old.strict⟩ :=
    Settings.ofEntries_overridden.mpr
      ⟨List.forall_mem_singleton.mpr (.inl rfl), named.asMode, rfl⟩
  have dumped : Settings.dump? (.settings l old.mode old.strict fields) = some old.toEntries := rfl
  rw [Settings.override, dumped, Run.require_some, pure_bind, read]
  rfl

theorem accepts_of_named {m : Mode} {text : String} (named : m.Named text) {source : ModeSource}
    {s : Session} (needs : source.Needs s) : source.Accepts text s := by
  cases source with
  | step c =>
    rw [Accepts, take, Run.exec_map_fst, Run.exec_lift, Contract.withMode_eq, named.asMode]
    exact ⟨_, rfl⟩
  | parts args returns | whole args returns =>
    obtain ⟨schema, fits⟩ := needs
    have given : Contract.given args returns (.text text) =
        .ok ⟨.fresh, schema, Contract.givenReturns returns, .known m⟩ :=
      Contract.given_eq_ok.mpr ⟨schema, fits, .inr ⟨m, named.asMode, rfl⟩⟩
    rw [Accepts, take, Contract.make_eq_finish, given]
    exact ⟨_, rfl⟩
  | settings =>
    have fields : Settings.ofEntries [(.text Settings.modeField, .text text)] =
        .ok ⟨m, Settings.standard.strict⟩ :=
      Settings.ofEntries_mode.mpr ⟨named.asMode, rfl⟩
    rw [Accepts, take, Settings.make, List.map_cons, List.map_nil, fields]
    exact ⟨_, rfl⟩
  | override base =>
    obtain ⟨b, t, old, begun, settings⟩ := needs
    obtain ⟨journal, done⟩ := Settings.exec_put (v := Settings.toValue ⟨m, old.strict⟩ _) rfl
      { t with next := t.next + 1 }
    rw [Accepts, take, Settings.replace_eq, Run.exec_bind_of_ok begun,
      Run.exec_bind_of_ok (exec_override_of_named named settings t), done]
    exact ⟨_, rfl⟩
  | load path environment =>
    obtain ⟨strict, others⟩ := needs
    have loaded : ((Settings.load path (Settings.withMode environment text)).exec s).1 =
        .ok ⟨m, strict⟩ :=
      (Settings.load_withMode_eq_ok named.ne_empty).mpr ⟨named, others⟩
    exact ⟨_, congrArg Prod.fst (Run.exec_bind_of_ok (Prod.ext loaded rfl))⟩
  | session =>
    obtain ⟨strict, others⟩ := needs
    have loaded : ((Settings.load none (Settings.withMode s.environment text)).exec s).1 =
        .ok ⟨m, strict⟩ :=
      (Settings.load_withMode_eq_ok named.ne_empty).mpr ⟨named, others⟩
    obtain ⟨journal, ran⟩ := exec_session text s
    rw [Accepts, ran, loaded]
    exact ⟨_, rfl⟩

/-- A text is accepted exactly if it names a mode and all else that is needed is there. -/
theorem accepts_iff_needs {text : String} (nonempty : text ≠ "") {source : ModeSource}
    {s : Session} : source.Accepts text s ↔ source.Needs s ∧ ∃ m : Mode, m.Named text := by
  constructor
  · rintro ⟨v, taken⟩
    exact ⟨needs_of_take nonempty (Prod.ext taken rfl), named_of_accepts nonempty ⟨v, taken⟩⟩
  · rintro ⟨needs, m, named⟩
    exact accepts_of_named named needs

/-- The word of one mode is accepted where those of the others are. -/
theorem open_iff_needs {source : ModeSource} {s : Session} : source.Open s ↔ source.Needs s := by
  constructor
  · rintro ⟨m, accepted⟩
    exact ((accepts_iff_needs m.named_word.ne_empty).mp accepted).1
  · exact fun needs => ⟨.both, accepts_of_named Mode.both.named_word needs⟩

end ModeSource

/-! ### Functions -/

open Contract in
/-- Whether a value is a function that has the gates of a mode around an implementation, in every
call: the arguments go through a gate exactly if the mode enforces that, and so does the result. A
keyword by the name `self` is taken by the function itself, and ends the call before anything
crosses a boundary. -/
def Value.Gated (g f : Value) (m : Mode) : Prop :=
  ∃ (id : Nat) (c : Contract), g = .function (.checked id (.contract c) f f.face) ∧
    ∀ (depth : Nat) (args : List Value) (kw : Keywords), callWithin (depth + 1) g args kw =
      if kw.has "self" then throw .wrongType
      else do
        let passed ← (if m.enforces .args
          then gateArgs (callWithin depth) (.contract c) f.face args kw
          else pure (args, kw) : Run (List Value × Keywords))
        let result ← callWithin depth f passed.1 passed.2
        if m.enforces .result
          then gate (callWithin depth) .result f.face.name c.returns.toValue result
          else pure result

namespace Contract

theorem gated_checked {c : Contract} {m : Mode} (known : c.mode = .known m) (id : Nat) (f : Value) :
    Value.Gated (.function (.checked id (.contract c) f f.face)) f m := by
  refine ⟨id, c, rfl, fun depth args kw => ?_⟩
  cases self : Keywords.has kw "self" with
  | true =>
    rw [callWithin_succ, Value.callBy, Function.callBy, call_eq_pipeline, pipeline, self]
    rfl
  | false =>
    rw [callWithin_eq_stages depth id f f.face args known self]
    rfl

/-- A contract that has a mode by then gets an implementation if the name of that can be written,
and the function has the gates of the mode. -/
theorem implement_gated {c : Contract} {m : Mode} {f : Value} {s : Session}
    (resolved : (c.resolvedMode.exec s).1 = .ok (.known m)) (callable : f.isCallable = true) :
    ((∃ g, ((c.implement f).exec s).1 = .ok g) ↔ ∃ shown, f.calledName.tell = .ok shown) ∧
      ∀ g, ((c.implement f).exec s).1 = .ok g → g.Gated f m := by
  have set : (ModeChoice.known m).toValue ≠ .null := nofun
  rw [implement_eq, if_pos callable, Run.exec_bind_of_ok (Prod.ext resolved rfl),
    exec_join_fst set]
  cases told : f.calledName.tell with
  | error e => exact ⟨⟨nofun, nofun⟩, nofun⟩
  | ok shown =>
    refine ⟨⟨fun _ => ⟨shown, rfl⟩, fun _ => ⟨_, rfl⟩⟩, ?_⟩
    rintro _ ⟨⟩
    exact gated_checked rfl _ f

theorem resolvedMode_congr {c c' : Contract} (same : c.mode = c'.mode) :
    c.resolvedMode = c'.resolvedMode := by
  rw [resolvedMode, resolvedMode, same]

end Contract

namespace ModeSource

section Function

variable {text : String} {m : Mode} {bare : Contract} {later : Contract → Contract} {f : Value}

variable (text bare later) in
/-- All that is given at once is put together as if it were given in steps. -/
theorem function_eq_ready (source : ModeSource) (implemented : f ≠ .null) :
    ∃ later', (later' = later ∨ later' = id) ∧ source.function text bare later f =
      source.ready text bare >>= fun c => (later' c).implement f := by
  cases source with
  | whole args returns =>
    refine ⟨id, .inr rfl, ?_⟩
    rw [function, Contract.make_eq_finish, ready]
    simp only [Contract.finish_of_given implemented, id]
  | _ => exact ⟨later, .inl rfl, rfl⟩

/-- A function is made exactly if the text is accepted and the name of the implementation can be
written, and it has the gates of the mode that the text names. -/
theorem function_gated (named : m.Named text) (source : ModeSource) (unset : bare.mode = .unset)
    (keeps : ∀ c, (later c).mode = c.mode) (callable : f.isCallable = true) (s : Session) :
    ((∃ g, ((source.function text bare later f).exec s).1 = .ok g) ↔
      source.Accepts text s ∧ ∃ shown, f.calledName.tell = .ok shown) ∧
    ∀ g, ((source.function text bare later f).exec s).1 = .ok g → g.Gated f m := by
  obtain ⟨later', either, same⟩ := function_eq_ready text bare later source
    (Value.ne_null_of_callable callable)
  have keeps' (c : Contract) : (later' c).mode = c.mode := by
    rcases either with rfl | rfl
    · exact keeps c
    · rfl
  rw [same]
  rcases ready_cases named.ne_empty source unset s with
    ⟨refused, e, t, ran⟩ | ⟨accepted, m', c, t, named', ran, resolved⟩
  · rw [Run.exec_bind_of_error ran]
    exact ⟨⟨nofun, fun h => absurd h.1 refused⟩, nofun⟩
  · obtain rfl : m = m' := Except.ok.inj (named.asMode.symm.trans named'.asMode)
    rw [Run.exec_bind_of_ok ran, and_iff_right accepted]
    rw [← Contract.resolvedMode_congr (keeps' c)] at resolved
    exact Contract.implement_gated resolved callable

end Function

/-- **All ways to give a mode read it alike.** Take a text that is not empty. Asking whether it
enforces a boundary, a step of a contract, the parts of a contract, a field of settings, an override
of settings and a variable of the environment accept the text exactly if all that they need besides
is there, and the text without the blanks around it and in lower case is the word of a mode. A
callable with a name that can be written then becomes a function, which in every call has the gates
of that mode and no others. -/
theorem accepts_named {text : String} (nonempty : text ≠ "") :
    (∀ b, (∃ r, shouldEnforce (.text text) (.boundary b) = .ok r) ↔ ∃ m : Mode, m.Named text) ∧
    (∀ (source : ModeSource) (s : Session),
      source.Accepts text s ↔ source.Needs s ∧ ∃ m : Mode, m.Named text) ∧
    ∀ m : Mode, m.Named text →
      (∀ b, shouldEnforce (.text text) (.boundary b) = .ok (m.enforces b)) ∧
      ∀ (source : ModeSource) (bare : Contract) (later : Contract → Contract) (f : Value)
        (s : Session),
        bare.mode = .unset → (∀ c, (later c).mode = c.mode) → f.isCallable = true →
        ((∃ g, ((source.function text bare later f).exec s).1 = .ok g) ↔
          source.Accepts text s ∧ ∃ shown, f.calledName.tell = .ok shown) ∧
        ∀ g, ((source.function text bare later f).exec s).1 = .ok g → g.Gated f m := by
  have asked {m : Mode} (named : m.Named text) (b : Boundary) :
      shouldEnforce (.text text) (.boundary b) = .ok (m.enforces b) := by
    rw [shouldEnforce, named.asMode]
    cases b <;> rfl
  refine ⟨fun b => ⟨?_, ?_⟩, fun _ _ => accepts_iff_needs nonempty,
    fun m named => ⟨asked named, ?_⟩⟩
  · rintro ⟨r, answered⟩
    cases read : (Value.text text).asMode with
    | error e =>
      rw [shouldEnforce, read] at answered
      cases answered
    | ok m => exact ⟨m, Value.asMode_text_eq_ok.mp read⟩
  · rintro ⟨m, named⟩
    exact ⟨_, asked named b⟩
  · intro source bare later f s unset keeps callable
    exact function_gated named source unset keeps callable s

theorem accepts_named_shouted :
    let source := ModeSource.load none []
    let len := Value.function (.builtin .len)
    let text := "\t RET\n"
    let later := fun c : Contract => c.withReturns (.type .int)
    text ≠ "" ∧ source.Needs Session.start ∧ Mode.ret.Named text ∧ Contract.empty.mode = .unset ∧
      (∀ c, (later c).mode = c.mode) ∧ len.isCallable = true ∧ source.Accepts text Session.start ∧
      ∃ g, ((source.function text .empty later len).exec Session.start).1 = .ok g ∧
        g.Gated len .ret := by
  intro source len text later
  have nonempty : text ≠ "" := by decide
  have opened : source.Open Session.start := by
    have loaded : ((take Mode.both.word source).exec Session.start).1.isOk = true := by
      decide +kernel
    cases ran : ((take Mode.both.word source).exec Session.start).1 with
    | error e =>
      rw [ran] at loaded
      cases loaded
    | ok v => exact ⟨.both, v, ran⟩
  have needs : source.Needs Session.start := open_iff_needs.mp opened
  have named : Mode.ret.Named text := by decide +kernel
  have accepted := ((accepts_named nonempty).2.1 source _).mpr ⟨needs, .ret, named⟩
  obtain ⟨made, gated⟩ := ((accepts_named nonempty).2.2 .ret named).2 source .empty later len
    Session.start rfl (fun _ => rfl) rfl
  obtain ⟨g, done⟩ := made.mpr ⟨accepted, "len", rfl⟩
  exact ⟨nonempty, needs, named, rfl, fun _ => rfl, rfl, accepted, g, done, gated g done⟩

end ModeSource

end CallContract
