import CallContract.Proofs.Layering

/-!
# Replacing the active settings

Settings are replaced in three parts: there is a base, the given one or else the active one
(`Settings.start`); overrides are put over it (`Settings.override`); and what comes of that is made
the active one (`Settings.put`). Each field of the new settings has the value that was given last,
or else that of the base (`Settings.Overridden`).
-/

namespace CallContract

namespace Settings

/-! ### The parts of a replacement -/

/-- The settings that overrides are put over: the given ones, or else the active ones. -/
def start : Option Value → Run Value
  | some v => pure v
  | none => active

/-- The layer of overrides. -/
def overrideLayer (overrides : List (String × Value)) : List (Value × Value) :=
  overrides.map fun (n, v) => (.text n, v)

/-- Settings with overrides put over them. -/
def override (base : Value) (overrides : List (String × Value)) : Run Value :=
  if overrides.isEmpty then pure base
  else do
    let entries ← Run.require .noAttribute (dump? base)
    match ofEntries (overlay entries (overrideLayer overrides)) with
    | .ok s => s.allocate
    | .error issues => fail (.unfit issues) none

/-- Make a value the active settings. -/
def put (new : Value) : Run Value := do
  modify fun s => { s with active := some new }
  let dump ← Run.require .noAttribute (wordDump? new)
  record ("Active config: " ++ (← Run.lift dump.show))
  return new

theorem replace_eq (base : Option Value) (overrides : List (String × Value)) :
    replace base overrides = start base >>= fun b => override b overrides >>= put := by
  unfold replace start
  dsimp only
  split <;> refine bind_congr fun b => ?_
  all_goals
    unfold override
    split
    · rfl
    · rw [bind_assoc]
      refine bind_congr fun entries => ?_
      dsimp only [overrideLayer]
      generalize ofEntries _ = read
      cases read <;> rfl

/-- The settings that a value is. -/
def ofValue? : Value → Option Settings
  | .settings _ m s _ => some ⟨m, s⟩
  | _ => none

@[simp] theorem ofValue?_toValue (st : Settings) (l : Label) : ofValue? (st.toValue l) = some st :=
  rfl

theorem ofValue?_eq_some_iff {v : Value} {st : Settings} :
    ofValue? v = some st ↔ ∃ l fields, v = .settings l st.mode st.strict fields := by
  constructor
  · intro h
    cases v <;> cases h
    exact ⟨_, _, rfl⟩
  · rintro ⟨l, fields, rfl⟩
    rfl

/-- Settings are always made active, with a record of them. -/
theorem exec_put {v : Value} {st : Settings} (h : ofValue? v = some st) (s : Session) :
    ∃ journal, (put v).exec s = (.ok v, { s with active := some v, journal }) := by
  obtain ⟨l, fields, rfl⟩ := ofValue?_eq_some_iff.mp h
  have shown : ∃ text, (Value.dict .fresh [(.text modeField, .text st.mode.word),
      (.text strictField, .bool st.strict)]).show = .ok text := by
    obtain ⟨m, b⟩ := st
    cases m <;> cases b <;> exact ⟨_, rfl⟩
  obtain ⟨text, shown⟩ := shown
  refine ⟨s.journal.add ⟨source, "[CONFIG] " ++ ("Active config: " ++ text)⟩, ?_⟩
  have dumped : wordDump? (.settings l st.mode st.strict fields) =
      some (.dict .fresh [(.text modeField, .text st.mode.word),
        (.text strictField, .bool st.strict)]) := rfl
  unfold put
  rw [Run.exec_bind_of_ok (Run.exec_modify ..), dumped, Run.require_some, pure_bind, shown]
  rfl

/-! ### Overrides -/

/-- The value that overrides give a field: the last one under its name. -/
def given? (name : String) (overrides : List (String × Value)) : Option Value :=
  overrides.reverse.lookup name

theorem given?_append (name : String) (first second : List (String × Value)) :
    given? name (first ++ second) = (given? name second).or (given? name first) := by
  rw [given?, List.reverse_append, List.lookup_append]
  rfl

theorem field?_overrideLayer (name : String) (overrides : List (String × Value)) :
    field? name (overrideLayer overrides) = given? name overrides := by
  induction overrides using List.reverseRecOn with
  | nil => rfl
  | append_singleton overrides e ih =>
    obtain ⟨n, v⟩ := e
    have layer : overrideLayer (overrides ++ [(n, v)]) =
        overrideLayer overrides ++ [(.text n, v)] := List.map_append
    rw [layer, field?_concat, ih, given?_append]
    by_cases same : n = name
    · simp [Value.text?, given?, same]
    · simp [Value.text?, given?, List.lookup_cons, same, beq_eq_false_iff_ne.mpr (Ne.symm same)]

theorem fits_overrideLayer {overrides : List (String × Value)} :
    Fits (overrideLayer overrides) ↔ ∀ e ∈ overrides, e.1 = modeField ∨ e.1 = strictField := by
  simp only [Fits, overrideLayer, List.forall_mem_map, IsField, Value.text.injEq]

/-- Whether something is what is read from a value, or what it was before if no value is given. -/
def Decides {α ε : Type} (read : Value → Except ε α) (given : Option Value) (old new : α) : Prop :=
  match given with
  | some v => read v = .ok new
  | none => new = old

theorem Decides.trans {α ε : Type} {read : Value → Except ε α} {first second : Option Value}
    {a b c : α} (h : Decides read first a b) (h' : Decides read second b c) :
    Decides read (second.or first) a c := by
  cases second with
  | some v => exact h'
  | none =>
    obtain rfl : c = b := h'
    exact h

/-- What is read where there is a value for what it was before. -/
theorem decides_iff {α ε : Type} {read : Value → Except ε α} {given : Option Value} {value : Value}
    {old new : α} (h : read value = .ok old) :
    read (given.getD value) = .ok new ↔ Decides read given old new := by
  cases given with
  | some v => rfl
  | none =>
    rw [Option.getD_none, h, Except.ok.injEq]
    exact eq_comm

/-- Whether settings are those of a base with overrides put over it: a field is what is read from
the value that was given for it last, and that of the base if none was given. -/
structure Overridden (base : Settings) (overrides : List (String × Value)) (st : Settings) :
    Prop where
  mode : Decides Value.asMode (given? modeField overrides) base.mode st.mode
  strict : Decides (Scalar.bool false) (given? strictField overrides) (.bool base.strict)
    (.bool st.strict)

theorem Overridden.refl (base : Settings) : base.Overridden [] base := ⟨rfl, rfl⟩

/-- Of overrides after overrides, the later ones count. -/
theorem Overridden.trans {a b c : Settings} {first second : List (String × Value)}
    (h : a.Overridden first b) (h' : b.Overridden second c) :
    a.Overridden (first ++ second) c where
  mode := given?_append .. ▸ h.mode.trans h'.mode
  strict := given?_append .. ▸ h.strict.trans h'.strict

/-- Overrides can be put over settings exactly if they are for fields and what is given last can be
read as the field. -/
theorem ofEntries_overridden {base st : Settings} {overrides : List (String × Value)} :
    ofEntries (overlay base.toEntries (overrideLayer overrides)) = .ok st ↔
      (∀ e ∈ overrides, e.1 = modeField ∨ e.1 = strictField) ∧ base.Overridden overrides st := by
  have fits : Fits base.toEntries := by simp [Fits, IsField, toEntries]
  have merged (name : String) (value : Value)
      (lower : lookupEntry (.text name) base.toEntries = some value) :
      lookupEntry (.text name) (overlay base.toEntries (overrideLayer overrides)) =
        some ((given? name overrides).getD value) := by
    rw [lookupEntry_overlay, field?_overrideLayer, lower]
    cases given? name overrides <;> rfl
  have mode := merged modeField (.mode base.mode)
    (by simp [toEntries, lookupEntry_text, Value.text?])
  have strict := merged strictField (.bool base.strict)
    (by simp [toEntries, lookupEntry_text, Value.text?, modeField, strictField])
  have lax : Scalar.bool false (.bool base.strict) = .ok (.bool base.strict) := rfl
  rw [ofEntries_eq_ok_iff, fits_overlay, fits_overrideLayer, readField, readField, mode, strict]
  dsimp only
  rw [readMode_eq_ok_iff, readStrict_eq_ok_iff, decides_iff (Value.asMode_mode base.mode),
    decides_iff lax]
  constructor
  · rintro ⟨mode, strict, -, names⟩
    exact ⟨names, mode, strict⟩
  · rintro ⟨names, mode, strict⟩
    exact ⟨mode, strict, fits, names⟩

/-! ### What a replacement comes to -/

/-- Putting overrides over a value fails and changes nothing, or gives the value itself because
there are none, or new settings if the value is settings. -/
theorem exec_override (base : Value) (overrides : List (String × Value)) (s : Session) :
    (∃ e, (override base overrides).exec s = (.error e, s)) ∨
      (overrides = [] ∧ (override base overrides).exec s = (.ok base, s)) ∨
      ∃ old st, ofValue? base = some old ∧ old.Overridden overrides st ∧
        (override base overrides).exec s =
          (.ok (st.toValue (.numbered s.next)), { s with next := s.next + 1 }) := by
  cases overrides with
  | nil => exact .inr (.inl ⟨rfl, rfl⟩)
  | cons o os =>
    have some_given : (o :: os).isEmpty = false := rfl
    unfold override
    rw [some_given, if_neg Bool.false_ne_true]
    cases dumped : dump? base with
    | none => exact .inl ⟨.noAttribute, rfl⟩
    | some entries =>
      rw [Run.require_some, pure_bind]
      cases read : ofEntries (overlay entries (overrideLayer (o :: os))) with
      | error issues => exact .inl ⟨_, rfl⟩
      | ok st =>
        cases base with
        | settings l m b fields =>
          obtain rfl := Option.some.inj dumped
          exact .inr (.inr ⟨⟨m, b⟩, st, rfl, (ofEntries_overridden.mp read).2, rfl⟩)
        | point l x y fields =>
          -- The coordinates of a point are no fields of settings.
          obtain rfl := Option.some.inj dumped
          have fits := (fits_overlay.mp (ofEntries_eq_ok_iff.mp read).2.2).1
          have named := fits (.text "x", x) (List.mem_cons_self ..)
          simp [IsField, modeField, strictField] at named
        | _ => cases dumped

/-- What is active is answered. -/
theorem active_eq_ok {s t : Session} {v : Value} (h : active.exec s = (.ok v, t)) :
    t.active = some v := by
  cases given : s.active with
  | some w =>
    rw [exec_active_of_some given] at h
    cases h
    exact given
  | none =>
    obtain ⟨r, g, exec⟩ := exec_active_of_none s.files s.environment
    rw [exec s given rfl rfl] at h
    cases r with
    | ok st =>
      cases h
      rfl
    | error e => cases h

/-- A value that cannot be shown as settings is active all the same. -/
theorem put_eq_error {v : Value} {s t : Session} {e : Fault}
    (h : (put v).exec s = (.error e, t)) : t = { s with active := some v } := by
  unfold put at h
  rw [Run.exec_bind_of_ok (Run.exec_modify ..)] at h
  cases dumped : wordDump? v with
  | none =>
    rw [dumped] at h
    cases h
    rfl
  | some dump =>
    rw [dumped, Run.require_some, pure_bind] at h
    cases shown : dump.show with
    | error e =>
      rw [shown] at h
      cases h
      rfl
    | ok text =>
      rw [shown] at h
      cases h

/-- **A replacement that fails leaves what its base does.** Nothing is changed beyond getting the
active settings, if they are the base, unless a value that is no settings is to be made active as it
is. -/
theorem replace_eq_error {base : Option Value} {overrides : List (String × Value)}
    {s t : Session} {e : Fault} (proper : overrides = [] → ∀ v, base = some v → (ofValue? v).isSome)
    (failed : (replace base overrides).exec s = (.error e, t)) : t = ((start base).exec s).2 := by
  rw [replace_eq, Run.exec_bind] at failed
  rcases begun : (start base).exec s with ⟨f | v, u⟩
  · rw [begun] at failed
    cases failed
    rfl
  · rw [begun] at failed
    dsimp only at failed ⊢
    rw [Run.exec_bind] at failed
    rcases exec_override v overrides u with ⟨f, ran⟩ | ⟨rfl, ran⟩ | ⟨old, st, -, -, ran⟩
    · rw [ran] at failed
      cases failed
      rfl
    · rw [ran] at failed
      dsimp only at failed
      cases base with
      | none =>
        -- What is put in place is what is there.
        rw [put_eq_error failed, ← active_eq_ok begun]
      | some w =>
        obtain ⟨rfl, rfl⟩ := Run.exec_pure_eq_ok.mp begun
        obtain ⟨st, settings⟩ := Option.isSome_iff_exists.mp (proper rfl w rfl)
        obtain ⟨journal, ran⟩ := exec_put settings s
        rw [ran] at failed
        cases failed
    · rw [ran] at failed
      dsimp only at failed
      obtain ⟨journal, ran⟩ := exec_put (ofValue?_toValue st (.numbered u.next))
        { u with next := u.next + 1 }
      rw [ran] at failed
      cases failed

/-- **A replacement that succeeds** makes settings active that are those of its base with the
overrides put over it, and answers them. -/
theorem replace_eq_ok {base : Option Value} {overrides : List (String × Value)}
    {s t : Session} {v : Value} (done : (replace base overrides).exec s = (.ok v, t))
    (settings : ∀ w u, (start base).exec s = (.ok w, u) → (ofValue? w).isSome) :
    t.active = some v ∧ ∃ w old st, ((start base).exec s).1 = .ok w ∧ ofValue? w = some old ∧
      ofValue? v = some st ∧ old.Overridden overrides st := by
  rw [replace_eq] at done
  obtain ⟨w, u, begun, done⟩ := Run.exec_bind_eq_ok.mp done
  obtain ⟨new, u', ran, done⟩ := Run.exec_bind_eq_ok.mp done
  obtain ⟨old, isOld⟩ := Option.isSome_iff_exists.mp (settings w u begun)
  have put_done {st : Settings} (h : ofValue? new = some st) : v = new ∧ t.active = some v := by
    obtain ⟨journal, ran⟩ := exec_put h u'
    rw [ran] at done
    cases done
    exact ⟨rfl, rfl⟩
  rcases exec_override w overrides u with
    ⟨f, failed⟩ | ⟨rfl, kept⟩ | ⟨old', st, isOld', follows, made⟩
  · rw [failed] at ran
    cases ran
  · rw [kept] at ran
    cases ran
    obtain ⟨rfl, active⟩ := put_done isOld
    exact ⟨active, v, old, old, congrArg Prod.fst begun, isOld, isOld, .refl old⟩
  · rw [made] at ran
    cases ran
    obtain ⟨rfl, active⟩ := put_done (ofValue?_toValue st _)
    exact ⟨active, w, old', st, congrArg Prod.fst begun, isOld', rfl, follows⟩

end Settings

end CallContract
