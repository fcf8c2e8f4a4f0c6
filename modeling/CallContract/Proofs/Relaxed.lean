import CallContract.Proofs.Conforming
import CallContract.Proofs.Examining
import CallContract.Proofs.Walking

/-!
# Checks that are not strict

A check that is not strict accepts whatever a strict one accepts, and makes the same of it
(`validate_relaxed`). Each rule has its own ways to be less strict, and each of them is tried only
on values that a strict check refuses. So as long as a strict check finds no issue, the other one
goes the same way: it asks the same predicates about the same values, one after another, and leaves
the same session (`Rule.relaxes`).

Validators of the engine may be less strict in another way: they may try something on a value that
is more than a strict check makes of it. The first of several alternatives that accepts a value is
an example of this (`intElseText_altered`). So validators have to be such that being less strict
changes nothing that was right (`Rule.Relaxing`).

This compares two checks that begin in one session. If predicates and validators are functions of
their argument, checks go the same way in all sessions (`Run.Constant`), so that it does not matter
where the other check begins.
-/

namespace CallContract

/-! ### Single values and containers -/

namespace Scalar

variable {v w : Value}

theorem int_relaxed (h : int true v = .ok w) : int false v = .ok w := by
  cases v <;> cases h
  rfl

theorem float_relaxed (h : float true v = .ok w) : float false v = .ok w := by
  cases v with
  | int | float | nan => exact h
  | _ => cases h

theorem bool_relaxed (h : bool true v = .ok w) : bool false v = .ok w := by
  cases v <;> cases h
  rfl

theorem text_relaxed (h : text true v = .ok w) : text false v = .ok w := by
  cases v <;> cases h <;> rfl

theorem bytes_relaxed (h : bytes true v = .ok w) : bytes false v = .ok w := by
  cases v <;> cases h
  rfl

end Scalar

/-- A point that is made strictly is made in the same way if it need not be. -/
theorem applyPoint_relaxed {v w : Value} (h : applyPoint true v = .ok w) :
    applyPoint false v = .ok w := by
  have coordinate {es : List (Value × Value)} {name : String} {missing : Verdict} {a : Value}
      (h : coordinate true es name missing = .ok a) : coordinate false es name missing = .ok a := by
    unfold CallContract.coordinate at h ⊢
    split at h
    · next x _ =>
      cases read : Scalar.int true x with
      | error c =>
        rw [read] at h
        cases h
      | ok y => rwa [read, ← Scalar.int_relaxed read] at h
    · exact h
  unfold applyPoint at h ⊢
  split at h
  · exact h
  · dsimp only at h ⊢
    split at h
    · next x y hx hy => rw [coordinate hx, coordinate hy, ← h]
    · cases h
  · cases h

/-! ### Checks without issues -/

/-- Whether a check goes the same way as another one where that finds no issue. -/
def Relaxes (strict lax : Run Verdict) : Prop :=
  ∀ s verdict t, strict.exec s = (.ok verdict, t) → verdict.issues = [] →
    lax.exec s = (.ok verdict, t)

/-- Whether checks of parts go the same way as others where those find no issue. -/
def RelaxesParts {α : Type} (strict lax : Run (List Issue × α)) : Prop :=
  ∀ s parts t, strict.exec s = (.ok ([], parts), t) → lax.exec s = (.ok ([], parts), t)

namespace Relaxes

theorem refl (m : Run Verdict) : Relaxes m m := fun _ _ _ h _ => h

/-- A check that does nothing but give a verdict. -/
theorem pure {x y : Verdict} (h : ∀ w, x = .ok w → y = .ok w)
    (reasons : ∀ is, x = .error is → is ≠ []) : Relaxes (Pure.pure x) (Pure.pure y) := by
  intro s verdict t checked none
  obtain ⟨rfl, rfl⟩ := Run.exec_pure_eq_ok.mp checked
  cases x with
  | ok w => rw [h w rfl, Run.exec_pure]
  | error is => exact absurd none (reasons is rfl)

/-- A single value that is read. -/
theorem reading {v : Value} {x y : Reading} (h : ∀ w, x = .ok w → y = .ok w) :
    Relaxes (Pure.pure (Verdict.ofReading v x)) (Pure.pure (Verdict.ofReading v y)) := by
  refine pure (fun w hw => ?_) fun is his => Verdict.ofReading_issues his
  cases x with
  | ok w' =>
    obtain rfl := Except.ok.inj hw
    rw [h _ rfl]
    rfl
  | error c => cases hw

/-- A check that goes on with what another one accepts. -/
theorem next {m n : Run Verdict} (h : Relaxes m n) (k : Value → Run Verdict) :
    Relaxes (m >>= fun | .error is => Pure.pure (.error is) | .ok w => k w)
      (n >>= fun | .error is => Pure.pure (.error is) | .ok w => k w) := by
  intro s verdict t checked none
  obtain ⟨inner, u, first, second⟩ := Run.exec_bind_eq_ok.mp checked
  refine Run.exec_bind_eq_ok.mpr ⟨inner, u, h _ _ _ first ?_, second⟩
  cases inner with
  | ok w => rfl
  | error is =>
    obtain ⟨rfl, -⟩ := Run.exec_pure_eq_ok.mp second
    exact none

/-- Items that can be members of a set. -/
theorem member {m n : Run Verdict} (h : Relaxes m n) (v : Value) :
    Relaxes (asMember v <$> m) (asMember v <$> n) := by
  intro s verdict t checked none
  rw [Run.exec_map] at checked ⊢
  split at checked
  · next found u inner =>
    cases checked
    have silent : found.issues = [] := by
      cases found with
      | ok w => rfl
      | error is => exact none
    rw [h _ _ _ inner silent]
  · cases checked

end Relaxes

/-- A first part that is checked by itself, before the others. -/
theorem RelaxesParts.addPart {m n : Run Verdict} (first : Relaxes m n) (p : Place)
    {others others' : Run (List Issue × List Value)} (rest : RelaxesParts others others') :
    RelaxesParts (do
        let verdict ← m
        let rest ← others
        return CallContract.addPart p verdict rest)
      (do
        let verdict ← n
        let rest ← others'
        return CallContract.addPart p verdict rest) := by
  intro s parts u h
  obtain ⟨verdict, t, checked, h⟩ := Run.exec_bind_eq_ok.mp h
  obtain ⟨⟨issues, ws⟩, u', checkedRest, h⟩ := Run.exec_bind_eq_ok.mp h
  obtain ⟨none, rfl⟩ := Run.exec_pure_eq_ok.mp h
  -- There is no issue with the whole, so there is none with the first part or with the others.
  obtain ⟨silent, rfl⟩ : verdict.issues = [] ∧ issues = [] := by
    have none := congrArg Prod.fst none
    cases verdict with
    | ok w => exact ⟨rfl, none⟩
    | error is => simpa [CallContract.addPart, Verdict.issues] using none
  rw [Run.exec_bind_of_ok (first _ _ _ checked silent),
    Run.exec_bind_of_ok (rest _ _ _ checkedRest), none]
  rfl

theorem applyItems_relaxed {check check' : Value → Run Verdict}
    (h : ∀ v, Relaxes (check v) (check' v)) (i : Nat) (vs : List Value) :
    RelaxesParts (applyItems check i vs) (applyItems check' i vs) := by
  induction vs generalizing i with
  | nil => exact fun _ _ _ h => h
  | cons v vs ih => exact .addPart (h v) _ (ih (i + 1))

theorem applyEntries_relaxed {key key' value value' : Value → Run Verdict}
    (hkey : ∀ v, Relaxes (key v) (key' v)) (hvalue : ∀ v, Relaxes (value v) (value' v))
    (es : List (Value × Value)) :
    RelaxesParts (applyEntries key value es) (applyEntries key' value' es) := by
  induction es with
  | nil => exact fun _ _ _ h => h
  | cons e es ih =>
    obtain ⟨k, v⟩ := e
    intro s parts u h
    rw [applyEntries] at h ⊢
    obtain ⟨rk, t, checkedKey, h⟩ := Run.exec_bind_eq_ok.mp h
    obtain ⟨rv, x, checkedValue, h⟩ := Run.exec_bind_eq_ok.mp h
    cases rk with
    | error is =>
      obtain ⟨⟨issues, fs⟩, y, others, h⟩ := Run.exec_bind_eq_ok.mp h
      have none := congrArg Prod.fst (Run.exec_pure_eq_ok.mp h).1
      simp only [Verdict.issues, List.append_eq_nil_iff, List.map_eq_nil_iff] at none
      obtain ⟨⟨rfl, valueSilent⟩, rfl⟩ := none
      refine Run.exec_bind_eq_ok.mpr ⟨_, t, hkey k _ _ _ checkedKey rfl, ?_⟩
      refine Run.exec_bind_eq_ok.mpr ⟨_, x, hvalue v _ _ _ checkedValue valueSilent, ?_⟩
      exact Run.exec_bind_eq_ok.mpr ⟨_, y, ih _ _ _ others, h⟩
    | ok k' =>
      refine Run.exec_bind_eq_ok.mpr ⟨_, t, hkey k _ _ _ checkedKey rfl, ?_⟩
      cases rv with
      | error is =>
        obtain ⟨⟨issues, fs⟩, y, others, h⟩ := Run.exec_bind_eq_ok.mp h
        have none := congrArg Prod.fst (Run.exec_pure_eq_ok.mp h).1
        simp only [Verdict.issues, List.append_eq_nil_iff, List.map_eq_nil_iff, List.map_nil,
          List.nil_append] at none
        obtain ⟨rfl, rfl⟩ := none
        refine Run.exec_bind_eq_ok.mpr ⟨_, x, hvalue v _ _ _ checkedValue rfl, ?_⟩
        exact Run.exec_bind_eq_ok.mpr ⟨_, y, ih _ _ _ others, h⟩
      | ok v' =>
        refine Run.exec_bind_eq_ok.mpr ⟨_, x, hvalue v _ _ _ checkedValue rfl, ?_⟩
        cases hashable : k'.isHashable with
        | false => simp [hashable] at h
        | true =>
          simp only [hashable, Bool.not_true, Bool.false_eq_true, if_false] at h ⊢
          obtain ⟨⟨issues, fs⟩, y, others, h⟩ := Run.exec_bind_eq_ok.mp h
          obtain rfl : issues = [] := congrArg Prod.fst (Run.exec_pure_eq_ok.mp h).1
          exact Run.exec_bind_eq_ok.mpr ⟨_, y, ih _ _ _ others, h⟩

/-! ### Rules -/

/-- Whether the validator that a rule asks, if any, answers as a strict one does where that finds no
issue. -/
def Rule.Relaxing (apply : Caller) : Rule → Prop
  | .own type => ∀ v,
    Relaxes (consult apply (type.validator true) v) (consult apply (type.validator false) v)
  | _ => True

section Rules

variable {apply : Caller}

/-- A container whose parts are checked one by one. What is made of the parts has the issues that
were found with them, if any. -/
theorem Relaxes.container (whole : Bool → Run Verdict) (items : Bool → Option (List Value))
    (refusal : Verdict) (parts : Bool → List Value → Run (List Issue × List Value))
    (finish : List Value → List Issue × List Value → Run Verdict)
    (checked : ∀ b, whole b = match items b with
      | none => Pure.pure refusal
      | some xs => parts b xs >>= finish xs)
    (refused : refusal.issues ≠ []) (found : ∀ xs, items true = some xs → items false = some xs)
    (relaxes : ∀ xs, RelaxesParts (parts true xs) (parts false xs))
    (reasons : ∀ xs p s verdict t, (finish xs p).exec s = (.ok verdict, t) →
      verdict.issues = [] → p.1 = []) :
    Relaxes (whole true) (whole false) := by
  intro s verdict t h silent
  rw [checked] at h ⊢
  cases own : items true with
  | none =>
    rw [own] at h
    obtain ⟨rfl, -⟩ := Run.exec_pure_eq_ok.mp h
    exact absurd silent refused
  | some xs =>
    rw [own] at h
    rw [found xs own]
    obtain ⟨⟨issues, ws⟩, u, gone, finished⟩ := Run.exec_bind_eq_ok.mp h
    obtain rfl : issues = [] := reasons xs _ u verdict t finished silent
    exact Run.exec_bind_eq_ok.mpr ⟨_, u, relaxes xs _ _ _ gone, finished⟩

theorem ofParts_silent {issues : List Issue} {whole : Value}
    (h : (Verdict.ofParts issues whole).issues = []) : issues = [] := by
  unfold Verdict.ofParts at h
  split at h
  · next none => simpa using none
  · exact h

/-- A container that is built anew from what is made of its parts. -/
theorem Relaxes.rebuilt (whole : Bool → Run Verdict) (items : Bool → Option (List Value))
    (refusal : Verdict) (parts : Bool → List Value → Run (List Issue × List Value))
    (build : List Value → Value)
    (checked : ∀ b, whole b = match items b with
      | none => Pure.pure refusal
      | some xs => parts b xs >>= fun p => Pure.pure (.ofParts p.1 (build p.2)))
    (refused : refusal.issues ≠ []) (found : ∀ xs, items true = some xs → items false = some xs)
    (relaxes : ∀ xs, RelaxesParts (parts true xs) (parts false xs)) :
    Relaxes (whole true) (whole false) := by
  refine .container whole items refusal parts _ checked refused found relaxes ?_
  intro xs p s verdict t h silent
  obtain ⟨rfl, -⟩ := Run.exec_pure_eq_ok.mp h
  exact ofParts_silent silent

mutual

/-- **Being less strict changes nothing that was right.** A check by a rule that need not be strict
goes the same way as a strict one where that finds no issue. By recursion on the rule. -/
theorem Rule.relaxes : ∀ (r : Rule), r.Each (Rule.Relaxing apply) → ∀ v : Value,
    Relaxes (r.apply apply true v) (r.apply apply false v)
  | .any, _, _ | .null, _, _ | .callable, _, _ | .unresolved, _, _ => .refl _
  | .bool, _, _ => .reading fun _ => Scalar.bool_relaxed
  | .int, _, _ => .reading fun _ => Scalar.int_relaxed
  | .float, _, _ => .reading fun _ => Scalar.float_relaxed
  | .text, _, _ => .reading fun _ => Scalar.text_relaxed
  | .bytes, _, _ => .reading fun _ => Scalar.bytes_relaxed
  | .point, _, _ => .pure (fun _ => applyPoint_relaxed) fun _ => applyPoint_issues
  | .call sig f, _, v => .refl _
  | .own _, relaxing, v => relaxing v
  | .optional r, relaxing, v => by
    cases v <;> first | exact .refl _ | exact relaxes r relaxing.2 _
  | .list r least most, relaxing, v => by
    refine .container (fun b => (Rule.list r least most).apply apply b v)
      (fun b => listItems b v) (.refuse (.mismatch .list) v)
      (fun b xs => applyItems (r.apply apply b) 0 (withinLimit most xs))
      (fun xs p => match exceeds xs.length most with
        | some m => return .refuse (.tooLong .list m (knownLength v)) v
        | none =>
          if !p.1.isEmpty then return .error p.1
          else if xs.length < least.getD 0 then
            return .refuse (.tooShort (least.getD 0) xs.length) v
          else return .ok (.list .fresh p.2))
      (fun _ => rfl) (List.cons_ne_nil _ _) (fun _ => elements_of_listItems)
      (fun xs => applyItems_relaxed (relaxes r relaxing.2) 0 _)
      fun xs p s verdict t h silent => ?_
    split at h
    · obtain ⟨rfl, -⟩ := Run.exec_pure_eq_ok.mp h
      cases silent
    · split at h
      · obtain ⟨rfl, -⟩ := Run.exec_pure_eq_ok.mp h
        exact silent
      · next none => simpa using none
  | .set r, relaxing, v =>
    .rebuilt (fun b => (Rule.set r).apply apply b v) (fun b => setItems b v)
      (.refuse (.mismatch .set) v)
      (fun b xs => applyItems (fun x => asMember x <$> r.apply apply b x) 0 xs)
      (fun ws => .set .fresh (distinct ws)) (fun _ => rfl) (List.cons_ne_nil _ _)
      (fun _ => elements_of_setItems)
      fun xs => applyItems_relaxed (fun x => (relaxes r relaxing.2 x).member x) 0 xs
  | .frozenset r, relaxing, v =>
    .rebuilt (fun b => (Rule.frozenset r).apply apply b v) (fun b => frozensetItems b v)
      (.refuse (.mismatch .frozenset) v)
      (fun b xs => applyItems (fun x => asMember x <$> r.apply apply b x) 0 xs)
      (fun ws => .frozenset .fresh (distinct ws)) (fun _ => rfl) (List.cons_ne_nil _ _)
      (fun _ => elements_of_frozensetItems)
      fun xs => applyItems_relaxed (fun x => (relaxes r relaxing.2 x).member x) 0 xs
  | .variadic r, relaxing, v =>
    .rebuilt (fun b => (Rule.variadic r).apply apply b v) (fun b => tupleItems b v)
      (.refuse (.mismatch .tuple) v) (fun b xs => applyItems (r.apply apply b) 0 xs)
      (.tuple .fresh) (fun _ => rfl) (List.cons_ne_nil _ _) (fun _ => elements_of_tupleItems)
      fun xs => applyItems_relaxed (relaxes r relaxing.2) 0 xs
  | .fixed rs, relaxing, v => by
    refine .container (fun b => (Rule.fixed rs).apply apply b v)
      (fun b => tupleItems b v) (.refuse (.mismatch .tuple) v)
      (fun b xs => applyFixed apply b v rs 0 xs)
      (fun xs p => match exceeds xs.length (some rs.length) with
        | some n => return .refuse (.tooLong .tuple n (knownLength v)) v
        | none => return .ofParts p.1 (.tuple .fresh p.2))
      (fun _ => rfl) (List.cons_ne_nil _ _) (fun _ => elements_of_tupleItems)
      (relaxes_fixed v rs relaxing.2 0) fun xs p s verdict t h silent => ?_
    split at h
    · obtain ⟨rfl, -⟩ := Run.exec_pure_eq_ok.mp h
      cases silent
    · obtain ⟨rfl, -⟩ := Run.exec_pure_eq_ok.mp h
      exact ofParts_silent silent
  | .dict rk rv, relaxing, v => by
    cases v with
    | dict l es =>
      intro s verdict t h silent
      obtain ⟨⟨issues, fs⟩, u, checked, h⟩ := Run.exec_bind_eq_ok.mp h
      obtain ⟨rfl, rfl⟩ := Run.exec_pure_eq_ok.mp h
      obtain rfl : issues = [] := ofParts_silent silent
      have parts := applyEntries_relaxed (relaxes rk relaxing.2.1) (relaxes rv relaxing.2.2) es _ _
        _ checked
      exact Run.exec_bind_eq_ok.mpr ⟨_, u, parts, rfl⟩
    | _ => exact .refl _
  | .limited r ls, relaxing, v => (relaxes r relaxing.2 v).next _
  | .after r p m, relaxing, v => (relaxes r relaxing.2 v).next _

theorem Rule.relaxes_fixed (whole : Value) : ∀ (rs : List Rule), EachOf (Rule.Relaxing apply) rs →
    ∀ (i : Nat) (vs : List Value),
      RelaxesParts (applyFixed apply true whole rs i vs) (applyFixed apply false whole rs i vs)
  | [], _, _, _ => fun _ _ _ h => h
  | _ :: rs, relaxing, i, [] =>
    .addPart (.refl (pure _)) _ (relaxes_fixed whole rs relaxing.2 (i + 1) [])
  | r :: rs, relaxing, i, v :: vs =>
    .addPart (relaxes r relaxing.1 v) _ (relaxes_fixed whole rs relaxing.2 (i + 1) vs)

end

end Rules

/-! ### Functions of their argument -/

/-- Whether a run goes the same way in all sessions of a class: it has the same outcome, leaves the
same entries in the trace, as far as `look` shows them, and does not lead out of the class. -/
def Run.Constant (I : Session → Prop) {α β : Type} (look : Entry → β) (m : Run α) : Prop :=
  ∃ outcome entries, ∀ s, I s → ∃ t, m.exec s = (outcome, t) ∧
    t.trace.map look = s.trace.map look ++ entries ∧ I t

/-- Whether what a function makes that stands in place of a type, or what the validator answers
that a rule asks, is a function of the arguments. -/
def Rule.IsConstant (apply : Caller) (I : Session → Prop) {β : Type} (look : Entry → β) :
    Rule → Prop
  | .call _ f => ∀ args kw, (apply f args kw).Constant I look
  | .own type => ∀ b v, (apply.ask (type.validator b) v).Constant I look
  | _ => True

/-- Whether checks by a schema ask predicates that are functions of their argument, in the sessions
of a class, and whether a store in such a session serves the schema. -/
structure Schema.Constant (apply : Caller) (I : Session → Prop) {β : Type} (look : Entry → β)
    (S : Schema) : Prop where
  /-- The adapter in store, if there is one, checks as the rule of the schema does. -/
  serves : ∀ s, I s → AdapterStore.Serves apply S s.adapters
  /-- Looking up the adapter does not lead out of the class. -/
  lookup : ∀ s, I s → I (S.adapter.exec s).2
  /-- Whether a predicate agrees is a function of its argument. -/
  asks : Gives (Rule.AsksOnly fun p =>
    ∀ w, (Value.isTruthy <$> apply.ask p w).Constant I look) S.rule
  /-- What else is called answers as a function of its arguments. -/
  calls : Gives (Rule.Each (Rule.IsConstant apply I look)) S.rule

section Constant

variable {apply : Caller} {I : Session → Prop} {β : Type} {look : Entry → β}

/-- What is put together from constant runs is constant. -/
theorem Run.Constant.relates :
    Run.Relates fun (α : Type) (m _ : Run α) => m.Constant I look where
  pure a := ⟨.ok a, [], fun s hs => ⟨s, rfl, (List.append_nil _).symm, hs⟩⟩
  throw e := ⟨.error e, [], fun s hs => ⟨s, rfl, (List.append_nil _).symm, hs⟩⟩
  bind := by
    rintro α γ m n k l ⟨outcome, entries, first⟩ next
    cases outcome with
    | error e =>
      refine ⟨.error e, entries, fun s hs => ?_⟩
      obtain ⟨t, done, rest⟩ := first s hs
      exact ⟨t, Run.exec_bind_of_error done, rest⟩
    | ok a =>
      obtain ⟨outcome, later, second⟩ := next a
      refine ⟨outcome, entries ++ later, fun s hs => ?_⟩
      obtain ⟨t, done, wrote, ht⟩ := first s hs
      obtain ⟨u, done', wrote', hu⟩ := second t ht
      refine ⟨u, (Run.exec_bind_of_ok done).trans done', ?_, hu⟩
      rw [wrote', wrote, List.append_assoc]

/-- Reading a value is constant. -/
theorem Run.Constant.lift {α : Type} (x : Except Fault α) : (Run.lift x).Constant I look := by
  cases x with
  | ok a => exact relates.pure a
  | error e => exact relates.throw e

/-- A predicate that is a function of its argument narrows values in the same way everywhere. -/
theorem narrow_constant {p w : Value} (h : (Value.isTruthy <$> apply.ask p w).Constant I look)
    (m v : Value) : (narrow apply p m v w).Constant I look := by
  obtain ⟨agrees, entries, h⟩ := h
  refine ⟨narrowed m v w agrees, entries, fun s hs => ?_⟩
  obtain ⟨t, asked, rest⟩ := h s hs
  refine ⟨t, ?_, rest⟩
  rw [exec_narrow_eq, ← Run.exec_map_fst, ← Run.exec_map_snd Value.isTruthy, asked]

/-- A validator that is a function of its argument checks values in the same way everywhere. -/
theorem consult_constant {p v : Value} (h : (apply.ask p v).Constant I look) :
    (consult apply p v).Constant I look := by
  obtain ⟨outcome, entries, h⟩ := h
  have consulted (verdict : Except Fault Verdict) (becomes : ∀ s t,
      (apply.ask p v).exec s = (outcome, t) → (consult apply p v).exec s = (verdict, t)) :
      (consult apply p v).Constant I look := by
    refine ⟨verdict, entries, fun s hs => ?_⟩
    obtain ⟨t, asked, rest⟩ := h s hs
    exact ⟨t, becomes s t asked, rest⟩
  cases outcome with
  | ok w => exact consulted (.ok (.ok w)) fun s t asked => by rw [exec_consult, asked]
  | error e =>
    cases found : e.issues? v with
    | some is =>
      exact consulted (.ok (.error is)) fun s t asked => by simp only [exec_consult, asked, found]
    | none =>
      exact consulted (.error e) fun s t asked => by simp only [exec_consult, asked, found]

/-- **Checks are functions of their argument** if all that they call is. -/
theorem Schema.Constant.apply_constant {S : Schema} (constant : S.Constant apply I look) {r : Rule}
    (rule : S.rule = .ok r) (b : Bool) (v : Value) : (r.apply apply b v).Constant I look :=
  Run.Constant.relates.rule (b := apply)
    { asks := fun _ asks m v w => narrow_constant (asks w) m v
      calls := fun _ _ constant _ => constant
      consults := fun _ constant b _ v => consult_constant (constant b v) }
    b r (constant.calls r rule) (constant.asks r rule) v

/-- Where the store is kept, checks by a schema in use are constant if predicates are. -/
theorem Schema.Constant.of_kept {C : Stock} (alike : C.CallsAlike apply) {S : Schema}
    (held : C.Holds S)
    (asks : Gives (Rule.AsksOnly fun p => ∀ w, (Value.isTruthy <$> apply.ask p w).Constant
      (AdapterStore.Kept C ·.adapters) look) S.rule)
    (calls : Gives (Rule.Each (Rule.IsConstant apply (AdapterStore.Kept C ·.adapters) look))
      S.rule) :
    S.Constant apply (AdapterStore.Kept C ·.adapters) look where
  serves s kept := kept.serves alike held
  lookup s kept := by
    have served := Schema.adapter_served held kept
    revert served
    generalize S.adapter.exec s = x
    rintro (_ | ⟨_, _, _, kept'⟩)
    · exact kept
    · exact kept'
  asks := asks
  calls := calls

/-- A check by a schema that has a rule goes the same way in all sessions. -/
theorem Schema.Constant.validate_constant {S : Schema} (constant : S.Constant apply I look)
    {r : Rule} (rule : S.rule = .ok r) (b : Bool) (v : Value) :
    (validate apply (.schema S) v (some b)).Constant I look := by
  have examined : (S.examine apply b v >>= Verdict.settle).Constant I look := by
    rw [examine, rule, Run.lift_ok, pure_bind]
    refine Run.Constant.relates.bind (n := r.apply apply b v) (l := Verdict.settle)
      (constant.apply_constant rule b v) fun verdict => ?_
    cases verdict with
    | ok w => exact Run.Constant.relates.pure w
    | error is => exact Run.Constant.relates.throw _
  obtain ⟨outcome, entries, examined⟩ := examined
  refine ⟨outcome, entries, fun s hs => ?_⟩
  obtain ⟨t, checked, wrote, ht⟩ := examined _ (constant.lookup s hs)
  refine ⟨t, ?_, ?_, ht⟩
  · rw [validate_of_prepared (constant.serves s hs)
      (S.exec_prepare_of_rule rule (constant.serves s hs) b), checked]
  · obtain ⟨store, made, looked⟩ := S.adapter_session s
    rwa [looked] at wrote

end Constant

/-- Whether the adapter with which checks by a schema are made in a session asks only validators
that answer as strict ones do where those find no issue. -/
def Schema.Relaxing (apply : Caller) (S : Schema) (s : Session) : Prop :=
  Gives (fun a => a.rule.Each (Rule.Relaxing apply)) (S.adapter.exec s).1

/-- **Being less strict changes nothing that was right.** Where a strict check makes a value of
another, a check that need not be strict makes it as well, if this is so for the validators of the
engine that are asked. It leaves the same session, whatever the functions are that are called and
whatever they write into it, so the same functions have been called with the same values, one after
another. If predicates are functions of their argument, this is also so for a check that begins in
another session: it leaves the same entries in the trace. -/
theorem validate_relaxed {apply : Caller} {S : Schema} {v w : Value} {s t : Session}
    (relaxing : S.Relaxing apply s)
    (accepted : (validate apply (.schema S) v (some true)).exec s = (.ok w, t)) :
    (validate apply (.schema S) v (some false)).exec s = (.ok w, t) ∧
      ∀ (I : Session → Prop) (β : Type) (look : Entry → β), S.Constant apply I look → I s →
        I t ∧ ∃ entries, t.trace.map look = s.trace.map look ++ entries ∧ ∀ s', I s' → ∃ t',
          (validate apply (.schema S) v (some false)).exec s' = (.ok w, t') ∧
            t'.trace.map look = s'.trace.map look ++ entries := by
  have relaxed : (validate apply (.schema S) v (some false)).exec s = (.ok w, t) := by
    obtain ⟨a, u, found, h⟩ := Run.exec_bind_eq_ok.mp accepted
    obtain ⟨b, x, strict, h⟩ := Run.exec_bind_eq_ok.mp h
    obtain ⟨rfl, rfl⟩ := Run.exec_pure_eq_ok.mp strict
    have checked := exec_settle_eq_ok.mp h
    refine Run.exec_bind_eq_ok.mpr ⟨a, u, found, ?_⟩
    refine Run.exec_bind_eq_ok.mpr ⟨false, u, rfl, ?_⟩
    have each : a.rule.Each (Rule.Relaxing apply) := relaxing a (congrArg Prod.fst found)
    exact exec_settle_eq_ok.mpr (a.rule.relaxes each v _ _ _ checked rfl)
  refine ⟨relaxed, fun I β look constant hs => ?_⟩
  obtain ⟨a, u, found, -⟩ := Run.exec_bind_eq_ok.mp accepted
  obtain ⟨r, rule, -⟩ := Schema.rule_of_adapter (constant.serves s hs) found
  obtain ⟨outcome, entries, checked⟩ := constant.validate_constant rule false v
  obtain ⟨t', same, wrote, ht⟩ := checked s hs
  obtain ⟨rfl, rfl⟩ := Prod.mk.inj (relaxed.symm.trans same)
  refine ⟨ht, entries, wrote, fun s' hs' => ?_⟩
  obtain ⟨t', checked', wrote', -⟩ := checked s' hs'
  exact ⟨t', checked', wrote'⟩

/-- Where texts are tried first, it makes no difference to what is a text or a whole number whether
a check is strict. -/
theorem textElseInt_relaxing (depth : Nat) :
    (Rule.own textElseInt).Relaxing (callWithin (depth + 1)) := by
  intro v s verdict t checked silent
  rw [exec_consult, ask_textElseInt, Run.exec_lift] at checked ⊢
  cases v with
  | text | mode | boundary | int => exact checked
  | _ => cases checked

theorem validate_relaxed_texts :
    let v := Value.text "ab"
    let strict := (validate (callWithin 1) (.schema nonemptyText) v (some true)).exec .start
    (strict.1 = .ok v ∧
        (validate (callWithin 1) (.schema nonemptyText) v (some false)).exec .start = strict ∧
        ∃ t', (validate (callWithin 1) (.schema nonemptyText) v (some false)).exec strict.2 =
          (.ok v, t')) ∧
      ((validate (callWithin 1) (.schema (.primitive .fresh textElseInt)) (.text "1")
        (some false)).exec .start).1 = .ok (.text "1") := by
  intro v strict
  have accepted : strict = (.ok v, strict.2) := rfl
  have relaxing : nonemptyText.Relaxing (callWithin 1) .start := by
    rintro _ ⟨⟩
    exact ⟨trivial, trivial⟩
  have constant : nonemptyText.Constant (callWithin 1)
      (AdapterStore.Kept measures ·.adapters) Entry.name := by
    refine .of_kept (callWithin_callsAlike _ _) nonemptyText_held ?_ ?_
    · rintro _ ⟨⟩
      refine ⟨trivial, fun w => ?_⟩
      rw [ask_len]
      exact Run.Constant.relates.map (n := .lift w.len) Value.isTruthy (.lift w.len)
    · rintro _ ⟨⟩
      exact ⟨trivial, trivial⟩
  obtain ⟨same, anywhere⟩ := validate_relaxed relaxing accepted
  obtain ⟨kept, entries, -, later⟩ := anywhere _ _ _ constant .nil
  obtain ⟨t', checked, -⟩ := later strict.2 kept
  have relaxingChoice : (Schema.primitive .fresh textElseInt).Relaxing (callWithin 1) .start := by
    rintro _ ⟨⟩
    exact textElseInt_relaxing 0
  have alternatives := (validate_relaxed (v := .text "1") relaxingChoice rfl).1
  exact ⟨⟨rfl, same, t', checked⟩, congrArg Prod.fst alternatives⟩

/-- The validator of alternatives that tries whole numbers first refuses digits in a strict check,
so that they are a text, and takes them for a number in one that need not be strict. -/
theorem intElseText_altered :
    let outcome (strict : Bool) :=
      ((validate call (.schema (.primitive .fresh (leftToRight "int" "str"))) (.text "1")
        (some strict)).exec .start).1
    outcome true = .ok (.text "1") ∧ outcome false = .ok (.int 1) :=
  ⟨rfl, rfl⟩

end CallContract
