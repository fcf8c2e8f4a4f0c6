import CallContract.Proofs.Passing

/-!
# What goes over from calls to checks

A check by a rule calls predicates, functions that stand in place of types, and validators. Apart
from that it only goes on with results, or ends with a fault. So a relation between runs that goes
over to what is put together in these ways (`Run.Relates`) holds of checks as soon as it holds of
what they call (`Run.Relates.rule`).
-/

namespace CallContract

mutual

/-- All rules are rules. -/
theorem Rule.each_true : ∀ r : Rule, r.Each fun _ => True
  | .optional r | .list r _ _ | .set r | .frozenset r | .variadic r | .limited r _ | .after r _ _ =>
    ⟨trivial, r.each_true⟩
  | .fixed rs => ⟨trivial, eachOf_true rs⟩
  | .dict rk rv => ⟨trivial, rk.each_true, rv.each_true⟩
  | .any | .null | .bool | .int | .float | .text | .bytes | .callable | .point | .call .. | .own _
  | .unresolved => trivial

theorem eachOf_true : ∀ rs : List Rule, EachOf (fun _ => True) rs
  | [] => trivial
  | r :: rs => ⟨r.each_true, eachOf_true rs⟩

end

mutual

/-- Whatever a rule calls, it calls. -/
theorem Rule.asksOnly_true : ∀ r : Rule, r.AsksOnly fun _ => True
  | .optional r | .list r _ _ | .set r | .frozenset r | .variadic r | .limited r _ =>
    r.asksOnly_true
  | .fixed rs => askOnly_true rs
  | .dict rk rv => ⟨rk.asksOnly_true, rv.asksOnly_true⟩
  | .after r _ _ => ⟨r.asksOnly_true, trivial⟩
  | .own _ => fun _ => trivial
  | .any | .null | .bool | .int | .float | .text | .bytes | .callable | .point | .call ..
  | .unresolved => trivial

theorem askOnly_true : ∀ rs : List Rule, AskOnly (fun _ => True) rs
  | [] => trivial
  | r :: rs => ⟨r.asksOnly_true, askOnly_true rs⟩

end

mutual

/-- What calls only what has a property calls only what has a weaker one. -/
theorem Rule.asksOnly_mono {P Q : Value → Prop} (weaker : ∀ v, P v → Q v) :
    ∀ r : Rule, r.AsksOnly P → r.AsksOnly Q
  | .optional r, h | .list r _ _, h | .set r, h | .frozenset r, h | .variadic r, h
  | .limited r _, h => r.asksOnly_mono weaker h
  | .fixed rs, h => askOnly_mono weaker rs h
  | .dict rk rv, h => ⟨rk.asksOnly_mono weaker h.1, rv.asksOnly_mono weaker h.2⟩
  | .after r p _, h => ⟨r.asksOnly_mono weaker h.1, weaker p h.2⟩
  | .call _ f, h => weaker f h
  | .own t, h => fun strict => weaker (t.validator strict) (h strict)
  | .any, _ | .null, _ | .bool, _ | .int, _ | .float, _ | .text, _ | .bytes, _ | .callable, _
  | .point, _ | .unresolved, _ => trivial

theorem askOnly_mono {P Q : Value → Prop} (weaker : ∀ v, P v → Q v) :
    ∀ rs : List Rule, AskOnly P rs → AskOnly Q rs
  | [], _ => trivial
  | r :: rs, h => ⟨r.asksOnly_mono weaker h.1, askOnly_mono weaker rs h.2⟩

end

/-- A relation between runs that goes over to what is put together from them. -/
structure Run.Relates (R : (α : Type) → Run α → Run α → Prop) : Prop where
  pure : ∀ {α : Type} (a : α), R α (Pure.pure a) (Pure.pure a)
  throw : ∀ {α : Type} (e : Fault), R α (MonadExcept.throw e) (MonadExcept.throw e)
  bind : ∀ {α β : Type} {m n : Run α} {k l : α → Run β}, R α m n → (∀ a, R β (k a) (l a)) →
    R β (m >>= k) (n >>= l)

/-- Whether asking predicates that have a property is related, and so is calling functions and
asking validators that have it and stand in rules with another one. -/
structure CallsRelated (R : (α : Type) → Run α → Run α → Prop) (a b : Caller) (M : Rule → Prop)
    (P : Value → Prop) : Prop where
  asks : ∀ p, P p → ∀ m v w, R _ (narrow a p m v w) (narrow b p m v w)
  calls : ∀ sig f, M (.call sig f) → P f → ∀ args kw, R Value (a f args kw) (b f args kw)
  consults : ∀ type, M (.own type) → ∀ strict, P (type.validator strict) → ∀ v,
    R _ (consult a (type.validator strict) v) (consult b (type.validator strict) v)

namespace Run.Relates

variable {R : (α : Type) → Run α → Run α → Prop} (relates : Run.Relates R)

include relates

theorem map {α β : Type} (g : α → β) {m n : Run α} (h : R α m n) : R β (g <$> m) (g <$> n) := by
  rw [← bind_pure_comp, ← bind_pure_comp]
  exact relates.bind h fun a => relates.pure _

/-! ### Parts -/

theorem applyItems {check check' : Value → Run Verdict} (h : ∀ v, R _ (check v) (check' v))
    (i : Nat) (vs : List Value) :
    R _ (CallContract.applyItems check i vs) (CallContract.applyItems check' i vs) := by
  induction vs generalizing i with
  | nil => exact relates.pure _
  | cons v vs ih =>
    exact relates.bind (h v) fun r => relates.bind (ih (i + 1)) fun rest => relates.pure _

theorem applyEntries {key key' value value' : Value → Run Verdict} (hk : ∀ v, R _ (key v) (key' v))
    (hv : ∀ v, R _ (value v) (value' v)) (es : List (Value × Value)) :
    R _ (CallContract.applyEntries key value es) (CallContract.applyEntries key' value' es) := by
  induction es with
  | nil => exact relates.pure _
  | cons e es ih =>
    obtain ⟨k, v⟩ := e
    rw [CallContract.applyEntries, CallContract.applyEntries]
    refine relates.bind (hk k) fun rk => relates.bind (hv v) fun rv => ?_
    cases rk with
    | error is => exact relates.bind ih fun rest => relates.pure _
    | ok k' =>
      cases rv with
      | error is => exact relates.bind ih fun rest => relates.pure _
      | ok v' =>
        dsimp only
        split
        · exact relates.bind (relates.throw _) fun _ => relates.bind ih fun rest => relates.pure _
        · exact relates.bind ih fun rest => relates.pure _

/-! ### Rules -/

variable {a b : Caller} {M : Rule → Prop} {P : Value → Prop}

mutual

/-- **What goes over from calls to checks.** Checks by a rule are related if all that the rule asks
and calls is. By recursion on the rule. -/
theorem rule (related : CallsRelated R a b M P) (strict : Bool) :
    ∀ r : Rule, r.Each M → r.AsksOnly P → ∀ v : Value,
      R _ (r.apply a strict v) (r.apply b strict v)
  | .any, _, _, _ | .null, _, _, _ | .bool, _, _, _ | .int, _, _, _ | .float, _, _, _
  | .text, _, _, _ | .bytes, _, _, _ | .callable, _, _, _ | .point, _, _, _ => relates.pure _
  | .unresolved, _, _, _ => relates.throw _
  | .optional r, each, held, v => by
    cases v <;> first | exact relates.pure _ | exact rule related strict r each.2 held _
  | .list r least most, each, held, v => by
    rw [Rule.apply, Rule.apply]
    split
    · exact relates.pure _
    · have item := rule related strict r each.2 held
      refine relates.bind (relates.applyItems item 0 _) fun parts => ?_
      dsimp only
      repeat' split
      all_goals exact relates.pure _
  | .set r, each, held, v | .frozenset r, each, held, v => by
    rw [Rule.apply, Rule.apply]
    split
    · exact relates.pure _
    · have item (x : Value) := relates.map (asMember x) (rule related strict r each.2 held x)
      exact relates.bind (relates.applyItems item 0 _) fun parts => relates.pure _
  | .variadic r, each, held, v => by
    rw [Rule.apply, Rule.apply]
    split
    · exact relates.pure _
    · have item := rule related strict r each.2 held
      exact relates.bind (relates.applyItems item 0 _) fun parts => relates.pure _
  | .fixed rs, each, held, v => by
    rw [Rule.apply, Rule.apply]
    split
    · exact relates.pure _
    · refine relates.bind (fixed related strict v rs each.2 held 0 _) fun parts => ?_
      dsimp only
      split <;> exact relates.pure _
  | .dict rk rv, each, held, v => by
    cases v <;> first
      | exact relates.pure _
      | exact relates.bind
          (relates.applyEntries (rule related strict rk each.2.1 held.1)
            (rule related strict rv each.2.2 held.2) _)
          fun parts => relates.pure _
  | .limited r ls, each, held, v => by
    rw [Rule.apply, Rule.apply]
    refine relates.bind (rule related strict r each.2 held v) fun verdict => ?_
    repeat' split
    all_goals exact relates.pure _
  | .after r p m, each, held, v => by
    rw [Rule.apply, Rule.apply]
    refine relates.bind (rule related strict r each.2 held.1 v) fun verdict => ?_
    split
    · exact relates.pure _
    · exact related.asks p held.2 m v _
  | .call sig f, each, held, v => by
    rw [Rule.apply, Rule.apply]
    split
    · exact relates.pure _
    · exact relates.map _ (related.calls sig f each held _ _)
  | .own t, each, held, v => related.consults t each strict (held strict) v

theorem fixed (related : CallsRelated R a b M P) (strict : Bool) (whole : Value) :
    ∀ rs : List Rule, EachOf M rs → AskOnly P rs → ∀ (i : Nat) (vs : List Value),
      R _ (applyFixed a strict whole rs i vs) (applyFixed b strict whole rs i vs)
  | [], _, _, _, _ => relates.pure _
  | _ :: rs, each, held, i, [] =>
    relates.bind (fixed related strict whole rs each.2 held.2 (i + 1) []) fun _ => relates.pure _
  | r :: rs, each, held, i, v :: vs => relates.bind (rule related strict r each.1 held.1 v) fun _ =>
    relates.bind (fixed related strict whole rs each.2 held.2 (i + 1) vs) fun _ => relates.pure _

end

/-! ### Validators -/

theorem firstAccepted (related : CallsRelated R a b (fun _ => True) P) (strict : Bool) (v : Value) :
    ∀ rs : List Rule, AskOnly P rs →
      R _ (CallContract.firstAccepted (fun r => r.apply a strict v) rs)
        (CallContract.firstAccepted (fun r => r.apply b strict v) rs)
  | [], _ => relates.throw _
  | r :: rs, held => by
    refine relates.bind (relates.rule related strict r r.each_true held.1 v) fun verdict => ?_
    cases verdict with
    | ok w => exact relates.pure w
    | error is => exact firstAccepted related strict v rs held.2

/-- What a validator answers is related, as the alternatives among which it chooses are rules. -/
theorem validateBy (related : CallsRelated R a b (fun _ => True) P) (allowed : AllowsValidators P)
    (checked : Value) (strict : Bool) (v : Value) :
    R Value (checked.validateBy a strict v) (checked.validateBy b strict v) := by
  unfold Value.validateBy
  split
  · next rs found =>
    exact relates.firstAccepted related strict v rs (alternatives?_askOnly allowed found)
  · exact relates.throw _

end Run.Relates

end CallContract
