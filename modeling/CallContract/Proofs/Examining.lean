import CallContract.Proofs.Meaning

/-!
# What a check by a schema finds

A check by a schema looks up an adapter and finds out how strict it has to be. From there on it goes
by the rule of the schema alone (`validate_eq_examine`). So what a check finds is said without the
store of adapters (`Schema.examine`).
-/

namespace CallContract

/-- What a check does before it looks at the value: the answer is how strict it is. -/
def Schema.prepare (S : Schema) (strict : Option Bool) : Run Bool := do
  let _ ← S.adapter
  strictness strict

/-- What is found out about a value by the rule of a schema. -/
def Schema.examine (apply : Caller) (b : Bool) (S : Schema) (v : Value) : Run Verdict := do
  let r ← Run.lift S.rule
  r.apply apply b v

/-- Go on with the value that a verdict gives, or end with the issues that it has. -/
def Verdict.settle : Verdict → Run Value
  | .ok w => return w
  | .error issues => throw (.invalid ⟨issues, none, none⟩)

/-- Whether a schema has a rule in which no name of a type is left unknown. -/
def Schema.Resolved (S : Schema) : Prop := ∃ r, S.translation = .ok r

section Checks

variable {apply : Caller} {S : Schema} {s t : Session} {v w : Value} {strict : Option Bool}
  {b : Bool}

/-- A check by a schema goes by the rule of the schema. -/
theorem validate_eq_examine (serves : AdapterStore.Serves apply S s.adapters) :
    (validate apply (.schema S) v strict).exec s =
      (do
        let b ← S.prepare strict
        let verdict ← S.examine apply b v
        verdict.settle : Run Value).exec s := by
  rw [validate, promote_schema, Schema.prepare, bind_assoc]
  rcases found : S.adapter.exec s with ⟨e | a, u⟩
  · rw [Run.exec_bind_of_error found, Run.exec_bind_of_error found]
  · obtain ⟨r, rule, alike⟩ := Schema.rule_of_adapter serves found
    rw [Run.exec_bind_of_ok found, Run.exec_bind_of_ok found]
    simp only [Schema.examine, rule, Run.lift_ok, pure_bind, alike]
    rfl

/-- If it is said how strict a check is, it gets ready by a schema that has a rule. -/
theorem Schema.exec_prepare_of_rule {r : Rule} (rule : S.rule = .ok r)
    (serves : AdapterStore.Serves apply S s.adapters) (b : Bool) :
    (S.prepare (some b)).exec s = (.ok b, (S.adapter.exec s).2) := by
  obtain ⟨a, u, found, -⟩ := Schema.exec_adapter_of_serves rule serves
  rw [prepare, Run.exec_bind_of_ok found, found]
  rfl

/-- What a check finds once it is ready to look at the value. -/
theorem validate_of_prepared (serves : AdapterStore.Serves apply S s.adapters)
    (prepared : (S.prepare strict).exec s = (.ok b, t)) :
    (validate apply (.schema S) v strict).exec s =
      (S.examine apply b v >>= Verdict.settle).exec t := by
  rw [validate_eq_examine serves, Run.exec_bind_of_ok prepared]

theorem Verdict.exec_settle_eq_ok {x : Verdict} :
    x.settle.exec s = (.ok w, t) ↔ x = .ok w ∧ s = t := by
  cases x with
  | ok y => rw [settle, Run.exec_pure_eq_ok, Except.ok.injEq]
  | error is => simp [settle]

/-- A check gives what is found out about the value, if there is nothing against it. -/
theorem exec_settle_eq_ok {m : Run Verdict} :
    (m >>= Verdict.settle).exec s = (.ok w, t) ↔ m.exec s = (.ok (.ok w), t) := by
  rw [Run.exec_bind_eq_ok]
  constructor
  · rintro ⟨x, u, found, settled⟩
    obtain ⟨rfl, rfl⟩ := Verdict.exec_settle_eq_ok.mp settled
    exact found
  · exact fun found => ⟨_, _, found, Verdict.exec_settle_eq_ok.mpr ⟨rfl, rfl⟩⟩

theorem exec_settle_snd (m : Run Verdict) : ((m >>= Verdict.settle).exec s).2 = (m.exec s).2 := by
  rw [Run.exec_bind]
  rcases m.exec s with ⟨e | is | w, t⟩ <;> rfl

end Checks

namespace Schema

variable {S : Schema} {r : Rule}

theorem examine_of_translation (apply : Caller) (b : Bool) (h : S.translation = .ok r) (v : Value) :
    S.examine apply b v = r.apply apply b v := by
  rw [examine, rule_of_translation h, Run.lift_ok, pure_bind]

end Schema

/-! ### Containers -/

/-- The verdict on a list with so many items, by what was found out about them. -/
def listVerdict (least most : Option Nat) (v : Value) (count : Nat)
    (parts : List Issue × List Value) : Verdict :=
  match exceeds count most with
  | some m => .refuse (.tooLong .list m (knownLength v)) v
  | none =>
    if !parts.1.isEmpty then .error parts.1
    else if count < least.getD 0 then .refuse (.tooShort (least.getD 0) count) v
    else .ok (.list .fresh parts.2)

/-- The verdict on a tuple with so many elements, of which so many were expected. -/
def tupleVerdict (expected : Nat) (v : Value) (count : Nat) (parts : List Issue × List Value) :
    Verdict :=
  match exceeds count (some expected) with
  | some n => .refuse (.tooLong .tuple n (knownLength v)) v
  | none => .ofParts parts.1 (.tuple .fresh parts.2)

section Containers

variable {apply : Caller} {b : Bool} {v : Value} {xs : List Value}

/-- The items of a container, as they are looked for, are what it holds. -/
theorem elements_of_containerItems {own : Value → Option (List Value)}
    (owned : ∀ {v xs}, own v = some xs → v.items? = some xs)
    (h : containerItems own b v = some xs) : v.elements? = some xs := by
  cases b with
  | true =>
    rw [Value.elements?, owned (show own v = some xs from h)]
    rfl
  | false => exact h

theorem elements_of_listItems (h : listItems b v = some xs) : v.elements? = some xs :=
  elements_of_containerItems (fun {v _} h => by cases v <;> cases h; rfl) h

theorem elements_of_tupleItems (h : tupleItems b v = some xs) : v.elements? = some xs :=
  elements_of_containerItems (fun {v _} h => by cases v <;> cases h; rfl) h

theorem elements_of_setItems (h : setItems b v = some xs) : v.elements? = some xs :=
  elements_of_containerItems (fun {v _} h => by cases v <;> cases h; rfl) h

theorem elements_of_frozensetItems (h : frozensetItems b v = some xs) : v.elements? = some xs :=
  elements_of_containerItems (fun {v _} h => by cases v <;> cases h; rfl) h

/-- The items of a list are checked one by one, and then there is a verdict on the whole. -/
theorem Rule.apply_list (r : Rule) (least most : Option Nat) (found : listItems b v = some xs) :
    (Rule.list r least most).apply apply b v =
      listVerdict least most v xs.length <$>
        applyItems (r.apply apply b) 0 (withinLimit most xs) := by
  rw [Rule.apply, ← bind_pure_comp]
  split
  · next none => cases found.symm.trans none
  · next found' =>
    obtain rfl := Option.some.inj (found.symm.trans found')
    refine bind_congr fun parts => ?_
    obtain ⟨issues, ws⟩ := parts
    dsimp only [listVerdict]
    cases exceeds xs.length most with
    | some m => rfl
    | none =>
      cases issues with
      | cons i is => rfl
      | nil => by_cases few : xs.length < least.getD 0 <;> simp [few]

theorem Rule.apply_list_of_none (r : Rule) (least most : Option Nat)
    (missing : listItems b v = none) :
    (Rule.list r least most).apply apply b v = pure (.refuse (.mismatch .list) v) := by
  rw [Rule.apply]
  split
  · rfl
  · next found => cases missing.symm.trans found

/-- The elements of a tuple are checked one by one, and then there is a verdict on the whole. -/
theorem Rule.apply_fixed (rs : List Rule) (found : tupleItems b v = some xs) :
    (Rule.fixed rs).apply apply b v =
      tupleVerdict rs.length v xs.length <$> applyFixed apply b v rs 0 xs := by
  rw [Rule.apply, ← bind_pure_comp]
  split
  · next none => cases found.symm.trans none
  · next found' =>
    obtain rfl := Option.some.inj (found.symm.trans found')
    refine bind_congr fun parts => ?_
    obtain ⟨issues, ws⟩ := parts
    dsimp only [tupleVerdict]
    cases exceeds xs.length (some rs.length) <;> rfl

theorem Rule.apply_fixed_of_none (rs : List Rule) (missing : tupleItems b v = none) :
    (Rule.fixed rs).apply apply b v = pure (.refuse (.mismatch .tuple) v) := by
  rw [Rule.apply]
  split
  · rfl
  · next found => cases missing.symm.trans found

theorem listVerdict_eq_ok {least most : Option Nat} {count : Nat} {parts : List Issue × List Value}
    {w : Value} (h : listVerdict least most v count parts = .ok w) :
    exceeds count most = none ∧ parts.1 = [] ∧ ¬ count < least.getD 0 ∧
      w = .list .fresh parts.2 := by
  unfold listVerdict at h
  split at h
  · cases h
  · next few =>
    split at h
    · cases h
    · next clean =>
      split at h
      · cases h
      · next enough => exact ⟨few, by simpa using clean, enough, (Except.ok.inj h).symm⟩

theorem tupleVerdict_eq_ok {expected count : Nat} {parts : List Issue × List Value} {w : Value}
    (h : tupleVerdict expected v count parts = .ok w) :
    exceeds count (some expected) = none ∧ parts.1 = [] ∧ w = .tuple .fresh parts.2 := by
  unfold tupleVerdict at h
  split at h
  · cases h
  · next few =>
    unfold Verdict.ofParts at h
    split at h
    · next clean => exact ⟨few, by simpa using clean, (Except.ok.inj h).symm⟩
    · cases h

end Containers

end CallContract
