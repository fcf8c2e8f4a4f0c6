import CallContract.Call
import CallContract.Proofs.Binding
import CallContract.Proofs.Running

/-!
# Records for families

A family is called with a record, which is one value or all keywords of the call together. The
keywords stand for the dictionary of them: a call with keywords alone and a call with that
dictionary are the same run, in which the factory is called once (`Family.instantiate_keywords`). A
record beside keywords is refused before the factory is called.

Two names are no such keywords. What is given by the name `vars` is the record itself, and a keyword
by the name `self` is refused.
-/

namespace CallContract

/-- The dictionary of keywords, in their order. -/
def Keywords.record (kw : Keywords) (l : Label) : Value :=
  .dict l (kw.map fun (n, v) => (.text n, v))

/-- The session after a record about a family has been written. -/
def Session.announcing (s : Session) (shown : String) : Session :=
  { s with journal := s.journal.add ⟨Family.source, "[GENERIC] Instantiating " ++ shown⟩ }

namespace Family

/-- Whether a value is a family that makes its members by a factory. -/
def Over (family factory : Value) : Prop :=
  ∃ id fields, family = .function (.generic id fields) ∧ fields.lookup factoryField = some factory

/-- The name that a family tells of its factory. -/
def toldName (factory : Value) : Value := (factory.attribute? nameAttribute).getD (.text "generic")

/-- Make a member from a record: tell so, and call the factory. -/
def member (apply : Caller) (factory record : Value) : Run Value := do
  let shown ← Run.lift (toldName factory).tell
  Run.record source ("[GENERIC] Instantiating " ++ shown)
  apply factory [record] []

/-- What is made of a factory is a family that makes its members by it. -/
theorem over_of_made {factory family : Value} {s t : Session}
    (made : (ofFactory factory).exec s = (.ok family, t)) : Over family factory := by
  unfold ofFactory at made
  dsimp only at made
  split at made
  · rw [Run.throw_bind] at made
    cases made
  · obtain ⟨id, u, -, made⟩ := Run.exec_bind_eq_ok.mp made
    obtain ⟨rfl, -⟩ := Run.exec_pure_eq_ok.mp made
    exact ⟨id, _, rfl, List.lookup_cons_self⟩

/-! ### The record of a call -/

section Records

variable {kw : Keywords} {record v w : Value}

theorem recordOf_keywords (given : kw ≠ []) :
    recordOf .null kw = .ok (kw.record .fresh) := by
  cases kw with
  | nil => exact absurd rfl given
  | cons e kw => rfl

/-- A record that is any value but nothing cannot stand beside keywords. -/
theorem recordOf_both (given : record ≠ .null) (more : kw ≠ []) :
    recordOf record kw = .error (.definition .recordAndKeywords) := by
  cases kw with
  | nil => exact absurd rfl more
  | cons e kw => cases record <;> first | exact absurd rfl given | rfl

theorem arguments_self (self : kw.has reservedName = true) (args : List Value) :
    arguments args kw = .error .wrongType := by
  simp [arguments, self]

theorem arguments_nil (noSelf : kw.has reservedName = false)
    (noVars : kw.lookup recordName = none) : arguments [] kw = .ok (.null, kw) := by
  simp [arguments, noSelf, noVars]

theorem arguments_one (noSelf : kw.has reservedName = false)
    (noVars : kw.lookup recordName = none) (v : Value) : arguments [v] kw = .ok (v, kw) := by
  simp [arguments, noSelf, noVars]

theorem arguments_named (noSelf : kw.has reservedName = false)
    (vars : kw.lookup recordName = some v) : arguments [] kw = .ok (v, kw.drop recordName) := by
  simp [arguments, noSelf, vars]

theorem arguments_twice (noSelf : kw.has reservedName = false)
    (vars : kw.lookup recordName = some v) (w : Value) :
    arguments [w] kw = .error .wrongType := by
  simp [arguments, noSelf, vars]

end Records

/-! ### Calls of families -/

section Calls

variable {family factory : Value} (makes : Over family factory) (depth : Nat)

include makes in
/-- A call of a family finds out what the record is, and makes a member from it. -/
theorem call_family (args : List Value) (kw : Keywords) :
    callWithin (depth + 1) family args kw = (do
      let given ← Run.lift (arguments args kw)
      let record ← Run.lift (recordOf given.1 given.2)
      member (callWithin depth) factory record) := by
  obtain ⟨id, fields, rfl, found⟩ := makes
  rw [callWithin_succ, Value.callBy, Function.callBy]
  unfold instantiate member toldName
  simp only [found, Run.require_some, pure_bind]

include makes in
theorem call_family_of_record {args : List Value} {kw rest : Keywords} {given record : Value}
    (taken : arguments args kw = .ok (given, rest)) (made : recordOf given rest = .ok record) :
    callWithin (depth + 1) family args kw = member (callWithin depth) factory record := by
  rw [call_family makes, taken, Run.lift_ok, pure_bind, made, Run.lift_ok, pure_bind]

include makes in
theorem call_family_of_unfit {args : List Value} {kw : Keywords} {e : Fault}
    (unfit : arguments args kw = .error e) :
    callWithin (depth + 1) family args kw = throw e := by
  rw [call_family makes, unfit]
  exact Run.throw_bind _ _

include makes in
theorem call_family_of_both {args : List Value} {kw rest : Keywords} {given : Value} {e : Fault}
    (taken : arguments args kw = .ok (given, rest)) (both : recordOf given rest = .error e) :
    callWithin (depth + 1) family args kw = throw e := by
  rw [call_family makes, taken, Run.lift_ok, pure_bind, both]
  exact Run.throw_bind _ _

end Calls

/-- When the name of the factory can be told, making a member is one call of the factory. -/
theorem exec_member {apply : Caller} {factory : Value} {shown : String}
    (told : (toldName factory).tell = .ok shown) (record : Value) (s : Session) :
    (member apply factory record).exec s =
      (apply factory [record] []).exec (s.announcing shown) := by
  rw [member, told, Run.lift_ok, pure_bind]
  exact Run.exec_bind_of_ok (Run.exec_modify _ s)

theorem exec_member_untold {apply : Caller} {factory : Value} {e : Fault}
    (untold : (toldName factory).tell = .error e) (record : Value) (s : Session) :
    (member apply factory record).exec s = (.error e, s) := by
  rw [member, untold]
  exact Run.exec_bind_of_error (Run.exec_lift _ s)

/-- **Keywords stand for their dictionary.** A call of a family that gives keywords only, none of
them by the names `vars` and `self`, is the same run as the call with the dictionary of them: its
factory is called once, with this dictionary, after the name of the factory has been told; where
the name cannot be told, both calls end with the same fault. Any other object that is this
dictionary is handed to the factory in the same way. Together with keywords, any record but nothing
is refused, and the factory is not called. By the name `vars` the record itself is given, and a
keyword by the name `self` is always refused. -/
theorem instantiate_keywords {family factory : Value} (makes : Over family factory) (depth : Nat)
    (kw : Keywords) :
    let call := callWithin (depth + 1) family
    let make := member (callWithin depth) factory
    (kw.has reservedName = false → kw.has recordName = false → kw ≠ [] →
      call [] kw = call [kw.record .fresh] [] ∧ call [] kw = make (kw.record .fresh) ∧
      (∀ l, call [kw.record l] [] = make (kw.record l)) ∧
      ∀ record : Value, record ≠ .null →
        call [record] kw = throw (.definition .recordAndKeywords)) ∧
    (kw.has reservedName = false → ∀ v, kw.lookup recordName = some v →
      call [] kw = call [v] (kw.drop recordName) ∧ ∀ w, call [w] kw = throw .wrongType) ∧
    (kw.has reservedName = true → ∀ args, call args kw = throw .wrongType) ∧
    (∀ record s shown, (toldName factory).tell = .ok shown →
      (make record).exec s = (callWithin depth factory [record] []).exec (s.announcing shown)) ∧
    ∀ record s e, (toldName factory).tell = .error e → (make record).exec s = (.error e, s) := by
  intro call make
  refine ⟨fun noSelf noVars given => ?_, fun noSelf v vars => ⟨?_, fun w => ?_⟩,
    fun self args => ?_, fun record s shown told => exec_member told record s,
    fun record s e untold => exec_member_untold untold record s⟩
  · have absent := Keywords.lookup_eq_none_iff.mpr noVars
    have sugar : call [] kw = make (kw.record .fresh) :=
      call_family_of_record makes depth (arguments_nil noSelf absent) (recordOf_keywords given)
    have direct (l : Label) : call [kw.record l] [] = make (kw.record l) :=
      call_family_of_record makes depth (arguments_one rfl rfl _) rfl
    refine ⟨sugar.trans (direct .fresh).symm, sugar, direct, fun record something => ?_⟩
    exact call_family_of_both makes depth (arguments_one noSelf absent record)
      (recordOf_both something given)
  · have noSelf' : (kw.drop recordName).has reservedName = false := by
      rwa [Keywords.has_drop_of_ne (by decide)]
    have absent := Keywords.lookup_eq_none_iff.mpr (Keywords.has_drop_self kw recordName)
    have same : arguments [] kw = arguments [v] (kw.drop recordName) :=
      (arguments_named noSelf vars).trans (arguments_one noSelf' absent v).symm
    show callWithin _ _ _ _ = callWithin _ _ _ _
    rw [call_family makes, call_family makes, same]
  · exact call_family_of_unfit makes depth (arguments_twice noSelf vars w)
  · exact call_family_of_unfit makes depth (arguments_self self args)

/-- A factory that gives its record back. -/
def echo : Value := .function (.factory 3 "Echo" true .currentRecord [])

/-- The family of this factory. -/
def echoes : Value :=
  .function (.generic Label.firstFree
    ((factoryField, echo) :: echo.identity ++ [(wrappedName, echo)]))

theorem over_echoes : Over echoes echo := by
  have made : (ofFactory echo).exec Session.start = (.ok echoes, _) := rfl
  exact over_of_made made

theorem instantiate_keywords_echo :
    let kw : Keywords := [("X", .type .int), ("L", .int 3)]
    Over echoes echo ∧ kw.has reservedName = false ∧ kw.has recordName = false ∧ kw ≠ [] ∧
      ((callWithin 2 echoes [] kw).exec .start).1 = .ok (kw.record .fresh) ∧
      callWithin 2 echoes [.bool false] kw = throw (.definition .recordAndKeywords) := by
  intro kw
  have several : kw ≠ [] := nofun
  obtain ⟨sugar, -, -, told, -⟩ := instantiate_keywords over_echoes 1 kw
  obtain ⟨-, made, -, both⟩ := sugar rfl rfl several
  refine ⟨over_echoes, rfl, rfl, several, ?_, both _ nofun⟩
  rw [made, told _ _ "Echo" rfl]
  rfl

/-- What is given by the names of the parameters of a family is no entry of a dictionary. -/
theorem parameters_no_keywords :
    let outcome args kw := ((callWithin 2 echoes args kw).exec .start).1
    let self : Keywords := [("self", .int 1)]
    let vars : Keywords := [("vars", .int 1)]
    outcome [] self = .error .wrongType ∧
      outcome [self.record .fresh] [] = .ok (self.record .fresh) ∧
      outcome [] vars = .ok (.int 1) ∧
      outcome [vars.record .fresh] [] = .ok (vars.record .fresh) := by
  intro outcome self vars
  exact ⟨rfl, rfl, rfl, rfl⟩

end Family

end CallContract
