import CallContract.Proofs.Examining

/-!
# Bounds of array schemas

An array schema is built from an exact length, or from a least and a greatest one. Each bound is
none or a whole number, as large as one likes, and what is refused when the schema is built is only
what no list can meet. A rule has room for lengths below `lengthRange`; with a bound beyond these
there is no adapter. With the others there is one, and a list of accepted items is accepted exactly
if its length is within the bounds.
-/

namespace CallContract

namespace Schema

/-- A bound as it is given when an array schema is built. -/
def givenBound : Option Int → Value
  | none => .null
  | some i => .int i

/-- Whether a list of `k` items has the exact length, at least the least one and at most the
greatest one, as far as these are given. -/
def Within (length least most : Option Int) (k : Nat) : Prop :=
  (∀ n, length = some n → (k : Int) = n) ∧ (∀ n, least = some n → n ≤ k) ∧
    ∀ n, most = some n → (k : Int) ≤ n

/-- Whether a rule has room for a bound, if it is given. -/
def Countable (n : Option Int) : Prop := ∀ i, n = some i → i < lengthRange

theorem countable_none : Countable none := fun _ => nofun

/-! ### Building -/

/-- A bound that is taken is not negative. -/
theorem bound_eq_ok {name : BoundName} {n : Option Int} {m : Option Numeral}
    (h : bound name (givenBound n) = .ok m) :
    m = n.map Numeral.whole ∧ ∀ i, n = some i → 0 ≤ i := by
  cases n with
  | none =>
    cases h
    exact ⟨rfl, nofun⟩
  | some i =>
    change (if (Numeral.whole i).less (.whole 0) then _ else _) = _ at h
    rw [Numeral.whole_less_whole] at h
    by_cases negative : i < 0
    · rw [if_pos (decide_eq_true negative)] at h
      obtain ⟨_, _, h⟩ := bind_eq_ok.mp h
      cases h
    · rw [if_neg (by simpa using negative)] at h
      cases h
      refine ⟨rfl, ?_⟩
      rintro _ ⟨⟩
      omega

/-- What the parts of an array schema are, and that an exact length stands alone. -/
theorem array?_eq_ok {element S : Schema} {length least most : Option Int}
    (h : array? element (givenBound length) (givenBound least) (givenBound most) = .ok S) :
    S = .array .fresh element (length.map .whole) (least.map .whole) (most.map .whole) ∧
      (∀ n ∈ [length, least, most], ∀ i, n = some i → 0 ≤ i) ∧
      (length = none ∨ least = none ∧ most = none) := by
  obtain ⟨n, hlength, h⟩ := bind_eq_ok.mp h
  obtain ⟨lo, hleast, h⟩ := bind_eq_ok.mp h
  obtain ⟨hi, hmost, h⟩ := bind_eq_ok.mp h
  obtain ⟨_, fit, h⟩ := bind_eq_ok.mp h
  cases h
  obtain ⟨rfl, positiveLength⟩ := bound_eq_ok hlength
  obtain ⟨rfl, positiveLeast⟩ := bound_eq_ok hleast
  obtain ⟨rfl, positiveMost⟩ := bound_eq_ok hmost
  have positive : ∀ n ∈ [length, least, most], ∀ i, n = some i → 0 ≤ i :=
    List.forall_mem_cons.mpr ⟨positiveLength, List.forall_mem_cons.mpr
      ⟨positiveLeast, List.forall_mem_singleton.mpr positiveMost⟩⟩
  refine ⟨rfl, positive, ?_⟩
  cases length with
  | none => exact .inl rfl
  | some n =>
    cases least with
    | some lo => cases fit
    | none =>
      cases most with
      | some hi => cases fit
      | none => exact .inr ⟨rfl, rfl⟩

/-! ### The rule -/

/-- A bound counts items as long as a rule has room for it. -/
theorem boundCount_of_countable {n : Option Int} (positive : ∀ i, n = some i → 0 ≤ i)
    (countable : Countable n) : boundCount (n.map .whole) = .ok (n.map Int.toNat) := by
  cases n with
  | none => rfl
  | some i =>
    have range : 0 ≤ i ∧ i < lengthRange := ⟨positive i rfl, countable i rfl⟩
    rw [Option.map_some, boundCount, Numeral.count, Numeral.whole?]
    dsimp only
    rw [if_pos range]
    rfl

theorem boundCount_of_not_countable {n : Option Int} (beyond : ¬ Countable n) :
    boundCount (n.map .whole) = .error .badRule := by
  cases n with
  | none => exact absurd countable_none beyond
  | some i =>
    have range : ¬ (0 ≤ i ∧ i < lengthRange) := by
      rintro ⟨-, small⟩
      refine beyond ?_
      rintro _ ⟨⟩
      exact small
    rw [Option.map_some, boundCount, Numeral.count, Numeral.whole?]
    dsimp only
    rw [if_neg range]
    rfl

/-- The rule of an array schema is that of a list of what its element is, if its bounds count
items. -/
theorem translation_array_of {l : Label} {element : Schema} {n lo hi : Option Numeral} {r₀ : Rule}
    (h : element.translation = .ok r₀) :
    (Schema.array l element n lo hi).translation = (do
      let least ← boundCount (lengthLimits n lo hi).1
      let most ← boundCount (lengthLimits n lo hi).2
      return .list r₀ least most) := by
  obtain ⟨a, ha, hr⟩ := bind_eq_ok.mp h
  obtain ⟨audit, rule⟩ := Annotation.rule_eq_ok.mp hr
  have same : a.asItem = a := by
    by_contra differ
    obtain ⟨l', types, rfl⟩ := Annotation.tuple_of_asItem differ
    cases rule
  rw [translation, annotation_array, ha]
  change Annotation.rule _ = _
  rw [same, Annotation.rule, Annotation.audit_within, audit, Annotation.toRule_within, rule]
  rfl

/-- A fault of the translation other than an unknown name is one of the rule. -/
theorem rule_of_translation_error {S : Schema} {e : Fault} (h : S.translation = .error e)
    (named : e ≠ .unknownName) : S.rule = .error e := by
  cases ha : S.annotation with
  | error e' =>
    rw [translation, ha] at h
    rw [rule, ha]
    exact h
  | ok a =>
    rw [translation, ha] at h
    have hr : a.rule = .error e := h
    rw [rule, ha]
    refine (pure_bind a _).trans ?_
    split
    · next unknown => exact absurd (Except.error.inj (hr.symm.trans unknown)) named
    · exact hr

/-- The limits of a list rule for bounds of which the exact length stands alone. -/
theorem lengthLimits_map (length least most : Option Int) :
    lengthLimits (length.map .whole) (least.map .whole) (most.map .whole) =
      ((length.or least).map .whole, (length.or most).map .whole) := by
  cases length <;> rfl

/-- A greatest length in a rule allows what is at most the bound. -/
theorem exceeds_toNat_iff {n : Option Int} (positive : ∀ i, n = some i → 0 ≤ i) {k : Nat} :
    exceeds k (n.map Int.toNat) = none ↔ ∀ i, n = some i → (k : Int) ≤ i := by
  cases n with
  | none => simp [exceeds]
  | some i =>
    have := positive i rfl
    simp only [exceeds, Option.map_some, Option.filter_eq_none_iff, Option.some.injEq,
      decide_eq_true_eq, forall_eq']
    omega

/-- A least length in a rule allows what is at least the bound. -/
theorem not_less_toNat_iff {n : Option Int} {k : Nat} :
    ¬ k < (n.map Int.toNat).getD 0 ↔ ∀ i, n = some i → i ≤ k := by
  cases n with
  | none => simp
  | some i =>
    simp only [Option.map_some, Option.getD_some, Option.some.injEq, forall_eq']
    omega

section Built

variable {element S : Schema} {length least most : Option Int} {r₀ : Rule}

/-- The rule of an array schema whose bounds can be counted. -/
theorem translation_of_countable (translated : element.translation = .ok r₀)
    (built : array? element (givenBound length) (givenBound least) (givenBound most) = .ok S)
    (countable : ∀ n ∈ [length, least, most], Countable n) :
    S.translation = .ok (.list r₀ ((length.or least).map Int.toNat)
      ((length.or most).map Int.toNat)) := by
  obtain ⟨rfl, positive, -⟩ := array?_eq_ok built
  have counted (n : Option Int) (given : n ∈ [length, least, most]) :
      boundCount (n.map .whole) = .ok (n.map Int.toNat) :=
    boundCount_of_countable (positive n given) (countable n given)
  have counts (m : Option Int) (given : m ∈ [least, most]) :
      boundCount ((length.or m).map .whole) = .ok ((length.or m).map Int.toNat) := by
    cases length with
    | none => exact counted m (List.mem_cons_of_mem _ given)
    | some n => exact counted (some n) List.mem_cons_self
  rw [translation_array_of translated, lengthLimits_map, counts least (by simp),
    counts most (by simp)]
  rfl

/-- There is no rule for an array schema with a bound that cannot be counted. -/
theorem rule_of_not_countable (translated : element.translation = .ok r₀)
    (built : array? element (givenBound length) (givenBound least) (givenBound most) = .ok S)
    (beyond : ¬ ∀ n ∈ [length, least, most], Countable n) : S.rule = .error .badRule := by
  obtain ⟨rfl, positive, alone⟩ := array?_eq_ok built
  refine rule_of_translation_error ?_ nofun
  rw [translation_array_of translated, lengthLimits_map]
  by_cases first : Countable (length.or least)
  · have second : ¬ Countable (length.or most) := by
      refine fun second => beyond ?_
      cases length with
      | none =>
        exact List.forall_mem_cons.mpr ⟨countable_none, List.forall_mem_cons.mpr
          ⟨first, List.forall_mem_singleton.mpr second⟩⟩
      | some n =>
        obtain ⟨⟨⟩⟩ | ⟨rfl, rfl⟩ := alone
        exact List.forall_mem_cons.mpr ⟨first, List.forall_mem_cons.mpr
          ⟨countable_none, List.forall_mem_singleton.mpr countable_none⟩⟩
    have positiveFirst : ∀ i, length.or least = some i → 0 ≤ i := by
      cases length with
      | none => exact positive least (by simp)
      | some n => exact positive (some n) (by simp)
    rw [boundCount_of_countable positiveFirst first, boundCount_of_not_countable second]
    rfl
  · rw [boundCount_of_not_countable first]
    rfl

/-- The limits of the rule allow the lengths within the bounds. -/
theorem within_iff (positive : ∀ n ∈ [length, least, most], ∀ i, n = some i → 0 ≤ i)
    (alone : length = none ∨ least = none ∧ most = none) (k : Nat) :
    Within length least most k ↔ exceeds k ((length.or most).map Int.toNat) = none ∧
      ¬ k < ((length.or least).map Int.toNat).getD 0 := by
  obtain rfl | ⟨rfl, rfl⟩ := alone
  · rw [Option.none_or, Option.none_or, exceeds_toNat_iff (positive most (by simp)),
      not_less_toNat_iff]
    constructor
    · exact fun ⟨_, atLeast, atMost⟩ => ⟨atMost, atLeast⟩
    · exact fun ⟨atMost, atLeast⟩ => ⟨nofun, atLeast, atMost⟩
  · rw [Option.or_none, exceeds_toNat_iff (positive length (by simp)), not_less_toNat_iff]
    constructor
    · rintro ⟨same, -, -⟩
      exact ⟨fun i h => Int.le_of_eq (same i h), fun i h => Int.le_of_eq (same i h).symm⟩
    · rintro ⟨atMost, atLeast⟩
      exact ⟨fun i h => Int.le_antisymm (atMost i h) (atLeast i h), nofun, nofun⟩

end Built

end Schema

/-! ### Lists -/

section Lists

variable {apply : Caller} {b : Bool} {check : Value → Run Verdict}

/-- Items that are accepted one after another have no issues. -/
theorem exec_applyItems_of_accepted {xs ws : List Value} {s t : Session}
    (accepted : (xs.mapM fun x => check x >>= Verdict.settle).exec s = (.ok ws, t)) (i : Nat) :
    (applyItems check i xs).exec s = (.ok ([], ws), t) := by
  induction xs generalizing s ws i with
  | nil =>
    rw [List.mapM_nil] at accepted
    cases accepted
    rfl
  | cons x xs ih =>
    rw [List.mapM_cons] at accepted
    obtain ⟨w, u, first, accepted⟩ := Run.exec_bind_eq_ok.mp accepted
    obtain ⟨ws', y, rest, accepted⟩ := Run.exec_bind_eq_ok.mp accepted
    cases accepted
    rw [applyItems, Run.exec_bind_of_ok (exec_settle_eq_ok.mp first),
      Run.exec_bind_of_ok (ih rest (i + 1))]
    rfl

/-- Of items that are accepted one after another the first ones are, too. -/
theorem accepted_take {xs ws : List Value} {s t : Session}
    (accepted : (xs.mapM fun x => check x >>= Verdict.settle).exec s = (.ok ws, t)) (k : Nat) :
    ∃ ws' u, ((xs.take k).mapM fun x => check x >>= Verdict.settle).exec s = (.ok ws', u) := by
  rw [← List.take_append_drop k xs, List.mapM_append] at accepted
  obtain ⟨ws', u, first, -⟩ := Run.exec_bind_eq_ok.mp accepted
  exact ⟨ws', u, first⟩

/-- What a rule for lists finds about a list of accepted items is decided by its length. -/
theorem exec_list_of_accepted {r : Rule} (least most : Option Nat) {v : Value} {xs ws : List Value}
    {s t : Session} (found : listItems b v = some xs)
    (accepted : (xs.mapM fun x => r.apply apply b x >>= Verdict.settle).exec s = (.ok ws, t)) :
    (exceeds xs.length most = none ∧ ¬ xs.length < least.getD 0 ∧
        ((Rule.list r least most).apply apply b v).exec s = (.ok (.ok (.list .fresh ws)), t)) ∨
      ¬ (exceeds xs.length most = none ∧ ¬ xs.length < least.getD 0) ∧
        ∃ is u, ((Rule.list r least most).apply apply b v).exec s = (.ok (.error is), u) := by
  rw [Rule.apply_list r least most found, Run.exec_map]
  cases many : exceeds xs.length most with
  | some m =>
    -- The items up to the first that is too many are looked at, and there is nothing against them.
    obtain ⟨k, some_k⟩ : ∃ k, most = some k := by
      cases most with
      | none => cases many
      | some k => exact ⟨k, rfl⟩
    obtain ⟨ws', u, first⟩ := accepted_take accepted (k + 1)
    have checked := exec_applyItems_of_accepted first 0
    refine .inr ⟨fun fits => Option.some_ne_none _ fits.1, ?_⟩
    rw [some_k, withinLimit, checked]
    dsimp only
    rw [listVerdict, ← some_k, many]
    exact ⟨_, _, rfl⟩
  | none =>
    rw [withinLimit_of_few many, exec_applyItems_of_accepted accepted 0]
    dsimp only
    rw [listVerdict, many]
    by_cases few : xs.length < least.getD 0
    · refine .inr ⟨fun fits => fits.2 few, ?_⟩
      simp only [List.isEmpty_nil, Bool.not_true, Bool.false_eq_true, if_false, if_pos few]
      exact ⟨_, _, rfl⟩
    · refine .inl ⟨rfl, few, ?_⟩
      simp only [List.isEmpty_nil, Bool.not_true, Bool.false_eq_true, if_false, if_neg few]

end Lists

/-! ### Checks -/

/-- A schema that has a rule has an adapter in every session. -/
theorem Schema.adapter_of_rule {S : Schema} {r : Rule} (rule : S.rule = .ok r) (s : Session) :
    ∃ a t, S.adapter.exec s = (.ok a, t) := by
  cases hashable : S.isHashable with
  | false =>
    rw [exec_adapter_of_unhashable hashable, exec_newAdapter, rule]
    exact ⟨_, _, rfl⟩
  | true =>
    cases taken : AdapterStore.take? S s.adapters with
    | some found => exact ⟨_, _, exec_adapter_of_taken hashable taken⟩
    | none =>
      rw [exec_adapter_of_missing hashable taken, rule]
      exact ⟨_, _, rfl⟩

/-- Where the store serves a schema that has no rule, there is no adapter for it. -/
theorem Schema.adapter_of_rule_error {apply : Caller} {S : Schema} {e : Fault}
    (rule : S.rule = .error e) {s : Session}
    (serves : AdapterStore.Serves apply S s.adapters) : (S.adapter.exec s).1 = .error e := by
  cases hashable : S.isHashable with
  | false => rw [exec_adapter_of_unhashable hashable, exec_newAdapter, rule]
  | true =>
    cases taken : AdapterStore.take? S s.adapters with
    | some found =>
      obtain ⟨r, rule', -⟩ := serves _ _ taken
      cases rule.symm.trans rule'
    | none => rw [exec_adapter_of_missing hashable taken, rule]

/-- **Bounds that are taken hold, as long as they can be counted.** Let an array schema be built
from bounds that are none or whole numbers, and an element whose adapter can be had. If all bounds
that are given are below `lengthRange`, there is an adapter, and a list whose items are accepted one
after another is accepted if its length is within the bounds, and refused by a failure if not.
Otherwise there is no adapter, and every check ends with the fault for that. -/
theorem validate_within {apply : Caller} {element S : Schema} {length least most : Option Int}
    (resolved : element.Resolved)
    (built : Schema.array? element (Schema.givenBound length) (Schema.givenBound least)
      (Schema.givenBound most) = .ok S) {s : Session}
    (serves : AdapterStore.Serves apply S s.adapters) :
    ((∀ n ∈ [length, least, most], Schema.Countable n) →
      (∃ a t, S.adapter.exec s = (.ok a, t)) ∧
        ∀ (strict : Option Bool) ⦃b : Bool⦄ ⦃v : Value⦄ ⦃xs ws : List Value⦄ ⦃t u : Session⦄,
          (S.prepare strict).exec s = (.ok b, t) → listItems b v = some xs →
          (xs.mapM fun x => element.examine apply b x >>= Verdict.settle).exec t = (.ok ws, u) →
          (Schema.Within length least most xs.length ∧
              (validate apply (.schema S) v strict).exec s = (.ok (.list .fresh ws), u)) ∨
            ¬ Schema.Within length least most xs.length ∧
              ∃ f x, (validate apply (.schema S) v strict).exec s = (.error (.invalid f), x)) ∧
      ((¬ ∀ n ∈ [length, least, most], Schema.Countable n) →
        (S.adapter.exec s).1 = .error .badRule ∧
          ∀ strict v, ((validate apply (.schema S) v strict).exec s).1 = .error .badRule) := by
  obtain ⟨r₀, translated⟩ := resolved
  constructor
  · intro countable
    have translation := Schema.translation_of_countable translated built countable
    refine ⟨Schema.adapter_of_rule (Schema.rule_of_translation translation) s, ?_⟩
    intro strict b v xs ws t u prepared found accepted
    obtain ⟨-, positive, alone⟩ := Schema.array?_eq_ok built
    simp only [Schema.examine_of_translation apply b translated] at accepted
    rw [validate_of_prepared serves prepared, Schema.examine_of_translation apply b translation,
      Schema.within_iff positive alone]
    rcases exec_list_of_accepted ((length.or least).map Int.toNat)
        ((length.or most).map Int.toNat) found accepted with
      ⟨few, enough, checked⟩ | ⟨unfit, is, x, checked⟩
    · exact .inl ⟨⟨few, enough⟩, exec_settle_eq_ok.mpr checked⟩
    · exact .inr ⟨unfit, _, x, by rw [Run.exec_bind_of_ok checked]; rfl⟩
  · intro beyond
    have missing := Schema.adapter_of_rule_error
      (Schema.rule_of_not_countable translated built beyond) serves
    refine ⟨missing, fun strict v => ?_⟩
    rw [validate, promote_schema, Run.exec_bind_of_error (Prod.ext missing rfl)]

/-- Lists of one or two whole numbers. -/
def fewNumbers : Schema :=
  .array .fresh (.primitive .fresh (.type .int)) none (some (.whole 1)) (some (.whole 2))

theorem validate_within_fewNumbers :
    let check (xs : List Value) :=
      (validate call (.schema fewNumbers) (.list .fresh xs) (some true)).exec Session.start
    (check [.int 5, .int 7]).1 = .ok (.list .fresh [.int 5, .int 7]) ∧
      ∃ f, (check [.int 5, .int 7, .int 9]).1 = .error (.invalid f) := by
  intro check
  have built : Schema.array? (.primitive .fresh (.type .int)) (Schema.givenBound none)
    (Schema.givenBound (some 1)) (Schema.givenBound (some 2)) = .ok fewNumbers := rfl
  have countable : ∀ n ∈ [none, some (1 : Int), some 2], Schema.Countable n := by
    simp [Schema.Countable, lengthRange, twoTo]
  have served : AdapterStore.Serves call fewNumbers Session.start.adapters :=
    AdapterStore.serves_nil _ _
  have checks := ((validate_within ⟨.int, rfl⟩ built served).1 countable).2 (some true)
  have found (xs : List Value) : listItems true (.list .fresh xs) = some xs := rfl
  let ready := (fewNumbers.adapter.exec Session.start).2
  constructor
  · rcases checks (t := ready) (u := ready) rfl (found [.int 5, .int 7]) rfl with
      ⟨-, checked⟩ | ⟨unfit, -⟩
    · exact congrArg Prod.fst checked
    · exact absurd (by simp [Schema.Within]) unfit
  · rcases checks (t := ready) (u := ready) rfl (found [.int 5, .int 7, .int 9]) rfl with
      ⟨fits, -⟩ | ⟨-, f, x, checked⟩
    · exact absurd fits (by simp [Schema.Within])
    · exact ⟨f, congrArg Prod.fst checked⟩

/-- Lists of whole numbers with a bound that is taken, and that no rule can have: there is an
adapter for the numbers and none for the lists. -/
theorem validate_beyond :
    ∃ S, Schema.array? (.primitive .fresh (.type .int)) (Schema.givenBound none)
        (Schema.givenBound none) (Schema.givenBound (some lengthRange)) = .ok S ∧
      Schema.Within none none (some lengthRange) 1 ∧
      ((validate call (.type .int) (.int 1) (some true)).exec Session.start).1 = .ok (.int 1) ∧
      ((validate call (.schema S) (.list .fresh [.int 1]) (some true)).exec Session.start).1 =
        .error .badRule := by
  refine ⟨_, rfl, ⟨nofun, nofun, ?_⟩, rfl, rfl⟩
  rintro _ ⟨⟩
  decide

end CallContract
