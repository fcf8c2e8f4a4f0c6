import CallContract.Proofs.Asked

/-!
# Refusals give reasons

A check that refuses a value gives at least one issue (`Rule.issues_ne_nil`), if errors of the
engine that predicates and validators pass on have one (`Caller.Tells`). Containers rely on this:
they take a part without issues for an accepted one.
-/

namespace CallContract

/-- Whether errors of the engine that a function passes on have an issue at least. -/
def Caller.Tells (apply : Caller) (f : Value) : Prop :=
  ∀ args kw s issues t, (apply f args kw).exec s = (.error (.unfit issues), t) → issues ≠ []

namespace Verdict

variable {v w : Value} {is : List Issue}

theorem ofReading_issues {x : Reading} (h : ofReading v x = .error is) : is ≠ [] := by
  cases x with
  | ok w => cases h
  | error c =>
    cases h
    exact List.cons_ne_nil _ _

theorem ofParts_issues {issues : List Issue} (h : ofParts issues w = .error is) : is ≠ [] := by
  unfold ofParts at h
  split at h
  · cases h
  · next nonempty =>
    obtain rfl := Except.error.inj h
    simpa using nonempty

theorem refuse_issues {c : Complaint} (h : refuse c v = .error is) : is ≠ [] := by
  cases h
  exact List.cons_ne_nil _ _

end Verdict

theorem coordinate_issues {strict : Bool} {entries : List (Value × Value)} {name : String}
    {missing : Verdict} (hmissing : ∀ is, missing = .error is → is ≠ []) {is : List Issue}
    (h : coordinate strict entries name missing = .error is) : is ≠ [] := by
  -- Issues are only moved below the name of the coordinate.
  have moved {verdict : Verdict} (hv : ∀ is, verdict = .error is → is ≠ [])
      (h : verdict.mapError (fun is => is.map (Issue.within (.key name))) = .error is) :
      is ≠ [] := by
    cases verdict with
    | ok w => cases h
    | error found =>
      obtain rfl := Except.error.inj h
      simpa using hv found rfl
  unfold coordinate at h
  refine moved (fun found hfound => ?_) h
  split at hfound
  · exact Verdict.ofReading_issues hfound
  · exact hmissing found hfound

theorem applyPoint_issues {strict : Bool} {v : Value} {is : List Issue}
    (h : applyPoint strict v = .error is) : is ≠ [] := by
  unfold applyPoint at h
  split at h
  · cases h
  · next es =>
    dsimp only at h
    generalize hx : coordinate strict es "x" (.refuse .missing (.dict _ es)) = x at h
    generalize hy : coordinate strict es "y" (.ok (.int 0)) = y at h
    cases x with
    | error found =>
      have nonempty : found ≠ [] := coordinate_issues (fun _ h => Verdict.refuse_issues h) hx
      obtain rfl := Except.error.inj h
      simp [Verdict.issues, nonempty]
    | ok a =>
      cases y with
      | ok b => cases h
      | error found =>
        have nonempty : found ≠ [] := coordinate_issues (fun _ h => by cases h) hy
        obtain rfl := Except.error.inj h
        simp [Verdict.issues, nonempty]
  · exact Verdict.refuse_issues h

theorem argumentsOf_issues {sig : List (Parameter Value)} {v : Value} {is : List Issue}
    (h : argumentsOf sig v = .error is) : is ≠ [] := by
  unfold argumentsOf at h
  split at h
  · cases h
    exact List.cons_ne_nil _ _
  · dsimp only at h
    split at h
    · cases h
    · next nonempty =>
      obtain rfl := Except.error.inj h
      simpa using nonempty

variable {apply : Caller}

theorem Fault.issues?_issues {e : Fault} {v : Value} {is : List Issue} (h : e.issues? v = some is)
    (hunfit : ∀ issues, e = .unfit issues → issues ≠ []) : is ≠ [] := by
  unfold Fault.issues? at h
  split at h
  · next issues =>
    obtain rfl := Option.some.inj h
    exact hunfit issues rfl
  · obtain ⟨c, -, rfl⟩ := Option.map_eq_some_iff.mp h
    exact List.cons_ne_nil _ _

/-- What comes of asking a predicate about a value. -/
theorem exec_narrow (p m v w : Value) (s : Session) : (narrow apply p m v w).exec s =
    match (apply.ask p w).exec s with
    | (.ok answer, t) =>
      if answer.isTruthy then (.ok (.ok w), t)
      else match m.text? with
        | some text => (.ok (.refuse (.refused text) v), t)
        | none => (.error .wrongType, t)
    | (.error e, t) => match e.issues? v with
      | some is => (.ok (.error is), t)
      | none => (.error e, t) := by
  have mapped := Run.exec_map (Except.ok (ε := List Issue)) (apply.ask p w) s
  rw [narrow, Run.exec_bind, Run.exec_tryCatch]
  rw [show (ExceptT.map Except.ok (apply.ask p w) : Run (Except (List Issue) Value)) =
    Except.ok <$> apply.ask p w from rfl, mapped]
  rcases (apply.ask p w).exec s with ⟨e | answer, t⟩
  · dsimp only
    cases e.issues? v <;> rfl
  · dsimp only
    split
    · rfl
    · cases m.text? <;> rfl

/-- What comes of asking a predicate about a value, by whether it agrees. -/
def narrowed (message v w : Value) : Except Fault Bool → Except Fault Verdict
  | .ok true => .ok (.ok w)
  | .ok false => match message.text? with
    | some m => .ok (.refuse (.refused m) v)
    | none => .error .wrongType
  | .error e => match e.issues? v with
    | some is => .ok (.error is)
    | none => .error e

/-- Of the answer of a predicate, only whether it agrees matters. -/
theorem exec_narrow_eq (p m v w : Value) (s : Session) :
    let asked := (apply.ask p w).exec s
    (narrow apply p m v w).exec s = (narrowed m v w (asked.1.map Value.isTruthy), asked.2) := by
  intro asked
  rw [exec_narrow]
  rcases answered : (apply.ask p w).exec s with ⟨e | x, t⟩
  · simp only [asked, answered, Except.map, narrowed]
    cases e.issues? v <;> rfl
  · simp only [asked, answered, Except.map]
    cases x.isTruthy with
    | true => rfl
    | false =>
      rw [if_neg Bool.false_ne_true, narrowed]
      cases m.text? <;> rfl

theorem narrow_issues {p m v w : Value} (tells : apply.Tells p) {s t : Session}
    {is : List Issue} (h : (narrow apply p m v w).exec s = (.ok (.error is), t)) : is ≠ [] := by
  rw [exec_narrow] at h
  split at h
  · split at h
    · cases h
    · split at h
      · exact Verdict.refuse_issues (Except.ok.inj (Prod.mk.inj h).1)
      · cases h
  · next e u asked =>
    split at h
    · next found =>
      obtain rfl := Except.error.inj (Except.ok.inj (Prod.mk.inj h).1)
      refine Fault.issues?_issues found fun issues unfit => ?_
      rw [unfit] at asked
      exact tells [w] [] s issues u asked
    · cases h

/-- What comes of asking a validator about a value. -/
theorem exec_consult (p v : Value) (s : Session) : (consult apply p v).exec s =
    match (apply.ask p v).exec s with
    | (.ok w, t) => (.ok (.ok w), t)
    | (.error e, t) => match e.issues? v with
      | some is => (.ok (.error is), t)
      | none => (.error e, t) := by
  have mapped := Run.exec_map (Except.ok (ε := List Issue)) (apply.ask p v) s
  rw [consult, Run.exec_tryCatch]
  rw [show (ExceptT.map Except.ok (apply.ask p v) : Run (Except (List Issue) Value)) =
    Except.ok <$> apply.ask p v from rfl, mapped]
  rcases (apply.ask p v).exec s with ⟨e | w, t⟩
  · dsimp only
    cases e.issues? v <;> rfl
  · rfl

/-- A validator accepts a value exactly if it answers, and its answer is what the check makes. -/
theorem exec_consult_eq_ok {p v w : Value} {s t : Session} :
    (consult apply p v).exec s = (.ok (.ok w), t) ↔ (apply.ask p v).exec s = (.ok w, t) := by
  rw [exec_consult]
  rcases (apply.ask p v).exec s with ⟨e | x, u⟩
  · dsimp only
    cases e.issues? v <;> simp
  · simp

theorem consult_issues {p v : Value} (tells : apply.Tells p) {s t : Session} {is : List Issue}
    (h : (consult apply p v).exec s = (.ok (.error is), t)) : is ≠ [] := by
  rw [exec_consult] at h
  split at h
  · cases h
  · next e u asked =>
    split at h
    · next found =>
      obtain rfl := Except.error.inj (Except.ok.inj (Prod.mk.inj h).1)
      refine Fault.issues?_issues found fun issues unfit => ?_
      rw [unfit] at asked
      exact tells [v] [] s issues u asked
    · cases h

/-- **Refusals give reasons.** A check by a rule that does not accept a value finds an issue. -/
theorem Rule.issues_ne_nil (b : Bool) :
    ∀ r : Rule, r.AsksOnly apply.Tells → ∀ {v : Value} {s t : Session} {is : List Issue},
      (r.apply apply b v).exec s = (.ok (.error is), t) → is ≠ []
  | .any, _, _, _, _, _, h => by cases h
  | .null, _, _, _, _, _, h | .bool, _, _, _, _, _, h | .int, _, _, _, _, _, h
  | .float, _, _, _, _, _, h | .text, _, _, _, _, _, h | .bytes, _, _, _, _, _, h
  | .callable, _, _, _, _, _, h =>
    Verdict.ofReading_issues (Run.exec_pure_eq_ok.mp h).1
  | .point, _, _, _, _, _, h => applyPoint_issues (Run.exec_pure_eq_ok.mp h).1
  | .optional r, asks, v, _, _, _, h => by
    cases v <;> first | cases h | exact issues_ne_nil b r asks h
  | .list r least most, asks, v, s, t, is, h => by
    rw [Rule.apply] at h
    split at h
    · exact Verdict.refuse_issues (Run.exec_pure_eq_ok.mp h).1
    · obtain ⟨⟨issues, ws⟩, u, -, rest⟩ := Run.exec_bind_eq_ok.mp h
      dsimp only at rest
      split at rest
      · exact Verdict.refuse_issues (Run.exec_pure_eq_ok.mp rest).1
      · split at rest
        · next nonempty =>
          obtain rfl := Except.error.inj (Run.exec_pure_eq_ok.mp rest).1
          simpa using nonempty
        · split at rest
          · exact Verdict.refuse_issues (Run.exec_pure_eq_ok.mp rest).1
          · cases (Run.exec_pure_eq_ok.mp rest).1
  | .set r, asks, v, s, t, is, h | .frozenset r, asks, v, s, t, is, h
  | .variadic r, asks, v, s, t, is, h => by
    rw [Rule.apply] at h
    split at h
    · exact Verdict.refuse_issues (Run.exec_pure_eq_ok.mp h).1
    · obtain ⟨parts, u, -, rest⟩ := Run.exec_bind_eq_ok.mp h
      exact Verdict.ofParts_issues (Run.exec_pure_eq_ok.mp rest).1
  | .fixed rs, asks, v, s, t, is, h => by
    rw [Rule.apply] at h
    split at h
    · exact Verdict.refuse_issues (Run.exec_pure_eq_ok.mp h).1
    · obtain ⟨⟨issues, ws⟩, u, -, rest⟩ := Run.exec_bind_eq_ok.mp h
      dsimp only at rest
      split at rest
      · exact Verdict.refuse_issues (Run.exec_pure_eq_ok.mp rest).1
      · exact Verdict.ofParts_issues (Run.exec_pure_eq_ok.mp rest).1
  | .dict rk rv, asks, v, s, t, is, h => by
    cases v with
    | dict l es =>
      rw [Rule.apply] at h
      obtain ⟨parts, u, -, rest⟩ := Run.exec_bind_eq_ok.mp h
      exact Verdict.ofParts_issues (Run.exec_pure_eq_ok.mp rest).1
    | _ => exact Verdict.refuse_issues (Run.exec_pure_eq_ok.mp h).1
  | .limited r ls, asks, v, s, t, is, h => by
    rw [Rule.apply] at h
    obtain ⟨verdict, u, inner, rest⟩ := Run.exec_bind_eq_ok.mp h
    split at rest
    · obtain rfl := Except.error.inj (Run.exec_pure_eq_ok.mp rest).1
      exact issues_ne_nil b r asks inner
    · split at rest
      · exact Verdict.refuse_issues (Run.exec_pure_eq_ok.mp rest).1
      · cases (Run.exec_pure_eq_ok.mp rest).1
  | .after r p m, asks, v, s, t, is, h => by
    rw [Rule.apply] at h
    obtain ⟨verdict, u, inner, rest⟩ := Run.exec_bind_eq_ok.mp h
    split at rest
    · obtain rfl := Except.error.inj (Run.exec_pure_eq_ok.mp rest).1
      exact issues_ne_nil b r asks.1 inner
    · exact narrow_issues asks.2 rest
  | .call sig f, asks, v, s, t, is, h => by
    rw [Rule.apply] at h
    split at h
    · next refused =>
      obtain rfl := Except.error.inj (Run.exec_pure_eq_ok.mp h).1
      exact argumentsOf_issues refused
    · rw [Run.exec_map] at h
      split at h <;> cases h
  | .own t, asks, _, _, _, _, h => consult_issues (asks b) h
  | .unresolved, _, _, _, _, _, h => by cases h

end CallContract
