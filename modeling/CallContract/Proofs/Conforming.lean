import CallContract.Proofs.Choosing
import CallContract.Proofs.Gates
import CallContract.Proofs.Meaning

/-!
# What passes conforms

What a check makes of a value conforms to the schema: the check accepts it, and makes nothing else
of it (`Regular.again`). So what reaches an implementation through the gate of the arguments, and
what reaches the caller through the gate of the result, conforms to the schemas of the contract
(`validate_conforming`).

Predicates have to be functions of their argument for this, and checks have to stay as strict as
they are. Both are said for a class of sessions that checks do not leave (`Regular`).
-/

namespace CallContract

/-! ### Checks by schemas -/

section Checking

variable {apply : Caller} {schema : Value} {strict : Option Bool}

/-- Whether checks by a schema go the same way in all sessions of a class, and do not lead out of
it. -/
structure Regular (apply : Caller) (I : Session → Prop) (strict : Option Bool) (schema : Value) :
    Prop where
  /-- The adapter in store, if there is one, checks as the rule of the schema does. -/
  serves : ∀ s, I s → AdapterStore.Serves apply (promote schema) s.adapters
  /-- Looking up the adapter does not lead out of the class. -/
  lookup : ∀ s, I s → I ((promote schema).adapter.exec s).2
  /-- The checks are as strict in all sessions, and finding this out does not lead out of the
  class. -/
  strictness : ∃ b, ∀ s, I s → ∃ t, (strictness strict).exec s = (.ok b, t) ∧ I t
  /-- No function stands in place of a type, and validators give back what they have made. -/
  firm : Gives (Rule.Each (Rule.IsFirm apply I)) (promote schema).rule
  /-- Predicates and validators are functions of their argument. -/
  steady : Gives (Rule.AsksOnly (apply.Steady I)) (promote schema).rule
  /-- Errors of the engine that a predicate or validator lets through have an issue at least. -/
  tells : Gives (Rule.AsksOnly apply.Tells) (promote schema).rule

/-- The sessions with certain active settings and a kept store. -/
def Session.Settled (C : Stock) (settings : Value) (s : Session) : Prop :=
  s.active = some settings ∧ AdapterStore.Kept C s.adapters

/-- Checks by a schema in use are regular where the active settings and the store are kept. -/
theorem Regular.of_kept {C : Stock} (calls : C.CallsAlike apply) {S : Schema} (held : C.Holds S)
    {settings : Value} {b : Bool}
    (strict : settings.attribute? Settings.strictField = some (.bool b))
    (firm : Gives (Rule.Each (Rule.IsFirm apply (Session.Settled C settings))) S.rule)
    (steady : Gives (Rule.AsksOnly (apply.Steady (Session.Settled C settings))) S.rule)
    (tells : Gives (Rule.AsksOnly apply.Tells) S.rule) :
    Regular apply (Session.Settled C settings) none (.schema S) where
  serves s hs := by
    rw [promote_schema]
    exact hs.2.serves calls held
  lookup s hs := by
    rw [promote_schema]
    have served := Schema.adapter_served held hs.2
    revert served
    generalize S.adapter.exec s = x
    rintro (_ | ⟨_, _, forget, kept⟩)
    · exact hs
    · exact ⟨(congrArg Session.active forget).trans hs.1, kept⟩
  strictness := by
    refine ⟨b, fun s hs => ⟨s, ?_, hs⟩⟩
    have active : Settings.active.exec s = (.ok settings, s) := by
      rw [Settings.active, Run.exec_bind_of_ok (Run.exec_get s), hs.1]
      rfl
    rw [CallContract.strictness, Settings.activeStrict, Run.exec_bind_of_ok active, strict]
    rfl
  firm := by rwa [promote_schema]
  steady := by rwa [promote_schema]
  tells := by rwa [promote_schema]

/-- What comes out of a check comes out of it again. -/
theorem Regular.again {I : Session → Prop} (regular : Regular apply I strict schema) {v w : Value}
    {s t : Session} (hs : I s) (h : (validate apply schema v strict).exec s = (.ok w, t)) :
    I t ∧ ∀ s', I s' → ∃ t', (validate apply schema w strict).exec s' = (.ok w, t') := by
  obtain ⟨b, strictly⟩ := regular.strictness
  obtain ⟨a, r, b', u, x, found, rule, asked, passed⟩ :=
    (validate_iff_passes regular.tells (regular.serves s hs)).mp h
  have hu : I u := by
    have kept := regular.lookup s hs
    rwa [found] at kept
  obtain ⟨x', asked', hx⟩ := strictly u hu
  obtain ⟨⟨⟩, rfl⟩ := Prod.mk.inj (asked.symm.trans asked')
  obtain ⟨ht, settles⟩ := passed.settles (regular.firm r rule) (regular.steady r rule) hx
  refine ⟨ht, fun s' hs' => ?_⟩
  -- The second check looks up an adapter of its own.
  obtain ⟨a', u', found', -⟩ := Schema.exec_adapter_of_serves rule (regular.serves s' hs')
  have hu' : I u' := by
    have kept := regular.lookup s' hs'
    rwa [found'] at kept
  obtain ⟨x', asked', hx'⟩ := strictly u' hu'
  obtain ⟨t', passed', -⟩ := settles x' hx'
  exact ⟨t', (validate_iff_passes regular.tells (regular.serves s' hs')).mpr
    ⟨a', r, b, u', x', found', rule, asked', passed'⟩⟩

end Checking

/-! ### Calls -/

/-- Whether a schema is one that arguments are given to: of tuples, or of anything. -/
def Schema.ForArguments : Schema → Prop
  | .tuple .. | .any _ => True
  | _ => False

theorem Schema.rule_tuple {l : Label} {items : List Schema} {r : Rule}
    (h : (Schema.tuple l items).rule = .ok r) : r = .unresolved ∨ ∃ rs, r = .fixed rs := by
  obtain ⟨a, annotated, h⟩ := bind_eq_ok.mp h
  obtain ⟨as, -, ha⟩ := bind_eq_ok.mp annotated
  obtain rfl := Except.ok.inj ha
  split at h
  · exact .inl (Except.ok.inj h).symm
  · have translated := Annotation.rule_eq_ok.mp h
    obtain ⟨rs, -, h⟩ := bind_eq_ok.mp translated.2
    exact .inr ⟨rs, (Except.ok.inj h).symm⟩

section Calls

variable {apply : Caller} {I : Session → Prop}

/-- What a schema for arguments makes of a tuple is a tuple. -/
theorem Schema.ForArguments.tuple {S : Schema} (forArguments : S.ForArguments)
    (tells : Gives (Rule.AsksOnly apply.Tells) (promote S.toValue).rule) {s t : Session}
    (serves : AdapterStore.Serves apply (promote S.toValue) s.adapters) {strict : Option Bool}
    {xs : List Value} {w : Value}
    (h : (validate apply S.toValue (.tuple .fresh xs) strict).exec s = (.ok w, t)) :
    ∃ ys, w = .tuple .fresh ys := by
  obtain ⟨a, r, b, u, x, -, rule, -, passed⟩ := (validate_iff_passes tells serves).mp h
  cases S with
  | any l =>
    obtain rfl := Except.ok.inj rule
    cases passed with
    | any => exact ⟨xs, rfl⟩
    | read h => cases h
  | tuple l items =>
    rw [show promote (Schema.tuple l items).toValue = .tuple l items from promote_schema _] at rule
    obtain rfl | ⟨rs, rfl⟩ := Schema.rule_tuple rule
    · cases passed with
      | read h => cases h
    · cases passed with
      | read h => cases h
      | fixed _ _ => exact ⟨_, rfl⟩
  | _ => exact forArguments.elim

variable {c : Contract} {m : Mode} {face : Face} {args : List Value} {kw : Keywords} {s t : Session}

open Contract

/-- What the gate of the arguments lets in conforms to their schema. -/
theorem Regular.inward (on : m.enforces .args = true) (forArguments : c.args.ForArguments)
    (regular : Regular apply I none c.args.toValue) (hs : I s) {xs : List Value} {ks : Keywords}
    (passed : (inward apply c m face args kw).exec s = (.ok (xs, ks), t)) :
    I t ∧ ∃ u, (validate apply c.args.toValue (.tuple .fresh xs) none).exec t =
      (.ok (.tuple .fresh xs), u) := by
  obtain ⟨given, w, -, checked, unpacked⟩ := exec_inward_eq_ok on passed
  obtain ⟨ys, rfl⟩ := forArguments.tuple regular.tells (regular.serves s hs) checked
  obtain rfl : ys = xs := Option.some.inj unpacked
  obtain ⟨ht, again⟩ := regular.again hs checked
  exact ⟨ht, again t ht⟩

/-- The way in does not lead out of a class for which the gate is regular. -/
theorem inward_stays (regular : m.enforces .args = true → c.args.ForArguments ∧
      Regular apply I none c.args.toValue) (hs : I s) {passed : List Value × Keywords}
    (h : (inward apply c m face args kw).exec s = (.ok passed, t)) : I t := by
  cases on : m.enforces .args with
  | true => exact (Regular.inward on (regular on).1 (regular on).2 hs h).1
  | false =>
    rw [Contract.inward, on] at h
    cases h
    exact hs

end Calls

/-- **What passes conforms.** Take a class of sessions for which checks by a schema are regular.
What such a check makes of a value, it accepts in each session of the class, and makes nothing else
of it. So in a call that stays in the class, the arguments that the implementation is entered with
through the gate are accepted by their schema as they are, and so is the result that the caller gets
through the gate. How the functions and validators are called that this calls in turn, does not
matter. -/
theorem validate_conforming (apply : Caller) (I : Session → Prop) :
    (∀ schema strict, Regular apply I strict schema → ∀ v w s t, I s →
      (validate apply schema v strict).exec s = (.ok w, t) →
      I t ∧ ∀ s', I s' → ∃ t', (validate apply schema w strict).exec s' = (.ok w, t')) ∧
    ∀ (c : Contract) (m : Mode) (id : Nat) (implementation : Value) (face : Face)
      (args : List Value) (kw : Keywords) (s : Session), c.mode = .known m → I s →
      (m.enforces .args = true → c.args.ForArguments ∧ Regular apply I none c.args.toValue) →
      (m.enforces .result = true → Regular apply I none c.returns.toValue) →
      (∀ xs ks t, I t → I ((apply implementation xs ks).exec t).2) →
      (m.enforces .args = true → ∀ xs ks t,
        Contract.Enters apply c m face (fun body =>
          (Contract.pipeline apply (.contract c) face args kw body).exec s) xs ks t →
        ∃ u, (validate apply c.args.toValue (.tuple .fresh xs) none).exec t =
          (.ok (.tuple .fresh xs), u)) ∧
      (m.enforces .result = true → ∀ w t,
        ((Function.checked id (.contract c) implementation face).callBy apply args kw).exec s =
          (.ok w, t) →
        ∃ u, (validate apply c.returns.toValue w none).exec t = (.ok w, u)) := by
  refine ⟨fun schema strict regular v w s t hs h => regular.again hs h, ?_⟩
  intro c m id implementation face args kw s known hs inner outer stays
  constructor
  · intro on xs ks t enters
    obtain ⟨forArguments, regular⟩ := inner on
    exact (Regular.inward on forArguments regular hs
      (Contract.inward_of_enters known enters)).2
  · intro on w t called
    rw [Function.callBy, Contract.call_eq_pipeline] at called
    cases self : kw.has "self" with
    | true =>
      cases (Contract.pipeline_refuses_self self _ (apply implementation)).symm.trans called
    | false =>
      rw [Contract.pipeline_eq_stages apply face known self] at called
      obtain ⟨⟨xs, ks⟩, u, entered, called⟩ := Run.exec_bind_eq_ok.mp called
      obtain ⟨r, x, returned, called⟩ := Run.exec_bind_eq_ok.mp called
      have hu : I u := inward_stays inner hs entered
      have hx : I x := by
        have kept := stays xs ks u hu
        rwa [returned] at kept
      obtain ⟨ht, again⟩ := (outer on).again hx (Contract.exec_outward_eq_ok on called)
      exact again t ht

/-- Calling `len` does nothing to a session. -/
theorem exec_len (depth : Nat) (xs : List Value) (ks : Keywords) (s : Session) :
    ((callWithin (depth + 1) (.function (.builtin .len)) xs ks).exec s).2 = s := by
  rw [callWithin_succ, Value.callBy, Function.callBy]
  unfold Builtin.call
  split <;> first
    | contradiction
    | rw [Run.exec_lift]
    | rfl

theorem ask_len (depth : Nat) (v : Value) :
    (callWithin (depth + 1)).ask (.function (.builtin .len)) v = Run.lift v.len := rfl

theorem len_steady (depth : Nat) (I : Session → Prop) :
    (callWithin (depth + 1)).Steady I (.function (.builtin .len)) :=
  .of_reading (ask_len depth)

/-- The gates of this contract are regular with strict settings. -/
theorem choosing_regular (m : Mode) (depth : Nat) :
    let I := Session.Settled measures strictSettings
    Regular (callWithin (depth + 1)) I none (choosing m).args.toValue ∧
      Regular (callWithin (depth + 1)) I none (choosing m).returns.toValue := by
  intro I
  constructor
  · have held : measures.Holds (choosing m).args := ⟨nonemptyText_held, trivial⟩
    refine .of_kept (b := true) (callWithin_callsAlike _ _) held rfl ?_ ?_ ?_
    · rintro _ ⟨⟩
      exact ⟨trivial, ⟨trivial, trivial⟩, trivial⟩
    · rintro _ ⟨⟩
      exact ⟨⟨trivial, len_steady depth I⟩, trivial⟩
    · rintro _ ⟨⟩
      exact ⟨⟨trivial, len_tells _⟩, trivial⟩
  · have held : measures.Holds (choosing m).returns := trivial
    refine .of_kept (b := true) (callWithin_callsAlike _ _) held rfl ?_ ?_ ?_ <;> rintro _ ⟨⟩
    · exact textElseInt_firm depth
    · exact textElseInt_steady depth
    · exact textElseInt_tells depth

theorem validate_conforming_choosing :
    let s := { Session.start with active := some strictSettings }
    let len := Value.function (.builtin .len)
    let checked := (validate (callWithin 1) (choosing .args).args.toValue
      (.tuple .fresh [.text "ab"]) none).exec s
    let called := (callWithin 2 (.function (.checked 0 (.contract (choosing .ret)) len len.face))
      [.text "ab"] []).exec s
    (checked.1 = .ok (.tuple .fresh [.text "ab"]) ∧
      ∃ u, (validate (callWithin 1) (choosing .args).args.toValue (.tuple .fresh [.text "ab"])
        none).exec checked.2 = (.ok (.tuple .fresh [.text "ab"]), u)) ∧
      called.1 = .ok (.int 2) ∧
      ∃ u, (validate (callWithin 1) (choosing .ret).returns.toValue (.int 2) none).exec called.2 =
        (.ok (.int 2), u) := by
  intro s len checked called
  have hs : Session.Settled measures strictSettings s := ⟨rfl, .nil⟩
  have stays (xs : List Value) (ks : Keywords) (t : Session)
      (ht : Session.Settled measures strictSettings t) :
      Session.Settled measures strictSettings ((callWithin 1 len xs ks).exec t).2 := by
    rwa [exec_len]
  have entered : Contract.Enters (callWithin 1) (choosing .args) .args len.face
      (fun body => (Contract.pipeline (callWithin 1) (.contract (choosing .args)) len.face
        [.text "ab"] [] body).exec s) [.text "ab"] [] checked.2 :=
    (Contract.pipeline_conduct rfl rfl).accepted rfl _ _ _ _ _ rfl rfl rfl
  have conforming :=
    (validate_conforming (callWithin 1) (Session.Settled measures strictSettings)).2
  refine ⟨⟨rfl, ?_⟩, rfl, ?_⟩
  · exact (conforming (choosing .args) .args 0 len len.face [.text "ab"] [] s rfl hs
      (fun _ => ⟨trivial, (choosing_regular .args 0).1⟩) (fun h => by cases h) stays).1 rfl _ _ _
      entered
  · exact (conforming (choosing .ret) .ret 0 len len.face [.text "ab"] [] s rfl hs
      (fun h => by cases h) (fun _ => (choosing_regular .ret 0).2) stays).2 rfl _ _ rfl

/-- A contract whose schema for the arguments makes a list of them. -/
def listed : Contract :=
  { Contract.empty with
    args := .array .fresh (.primitive .fresh (.type .int)) none none none, mode := .known .args }

/-- A function in place of a type makes something else of its own result. And a schema of lists, in
checks that are not strict, makes a list of the tuple of arguments that the implementation gets. -/
theorem stretch_not_conforming :
    let stretched (n : Nat) : Value := .tuple .fresh (.replicate n (.int 1))
    let outcome (v : Value) :=
      ((validate call (.schema (.primitive .fresh stretch)) v (some true)).exec Session.start).1
    let s := { Session.start with active := some (.settings .fresh .both false []) }
    let gated := (validate call listed.args.toValue (.tuple .fresh [.int 1]) none).exec s
    (outcome (stretched 0) = .ok (stretched 1) ∧ outcome (stretched 1) = .ok (stretched 2)) ∧
      gated.1 = .ok (.list .fresh [.int 1]) ∧
      Contract.Enters call listed .args stretch.face (fun body =>
        (Contract.pipeline call (.contract listed) stretch.face [.int 1] [] body).exec s)
        [.int 1] [] gated.2 := by
  intro stretched outcome s gated
  have outcome_eq (v : Value) : outcome v = _ :=
    congrArg Prod.fst (validate_of_new rfl stretch_rule (s := Session.start) rfl v (some true))
  refine ⟨⟨?_, ?_⟩, rfl, ?_⟩
  · rw [outcome_eq]
    rfl
  · rw [outcome_eq]
    rfl
  · exact (Contract.pipeline_conduct rfl rfl).accepted rfl _ _ _ _ _ rfl rfl rfl

end CallContract
