import CallContract.Contract.Call
import CallContract.Proofs.Running
import Mathlib.Tactic.SplitIfs

/-!
# What binding comes to

Arguments are bound in three rounds: the positional values, the keywords, and the keywords that no
parameter takes. `allot` says in one recursion over the parameters what each of them gets, and
`bind_eq_allot` that this is what the three rounds come to when they go well.
-/

namespace CallContract

/-! ### Keywords -/

namespace Keywords

theorem has_cons (n : String) (v : Value) (kw : Keywords) (m : String) :
    has ((n, v) :: kw) m = (n == m || has kw m) := rfl

theorem has_eq_isSome_lookup (kw : Keywords) (n : String) : kw.has n = (kw.lookup n).isSome := by
  induction kw with
  | nil => rfl
  | cons e kw ih =>
    obtain ⟨m, v⟩ := e
    rw [has_cons, List.lookup_cons, ih]
    by_cases h : m = n
    · subst h
      simp
    · rw [beq_eq_false_iff_ne.mpr h, beq_eq_false_iff_ne.mpr (Ne.symm h), Bool.false_or]

theorem lookup_eq_none_iff {kw : Keywords} {n : String} :
    kw.lookup n = none ↔ kw.has n = false := by
  rw [has_eq_isSome_lookup, Option.isSome_eq_false_iff, Option.isNone_iff_eq_none]

theorem lookup_drop_of_ne {m n : String} (h : m ≠ n) (kw : Keywords) :
    (kw.drop n).lookup m = kw.lookup m := by
  induction kw with
  | nil => rfl
  | cons e kw ih =>
    obtain ⟨k, v⟩ := e
    rw [List.lookup_cons, ← ih]
    by_cases hk : k = n
    · subst hk
      rw [beq_eq_false_iff_ne.mpr h]
      simp [drop]
    · simp [drop, hk, List.lookup_cons]

theorem has_drop_self (kw : Keywords) (n : String) : (kw.drop n).has n = false := by
  simp [has, drop]

theorem has_drop_of_ne {m n : String} (h : m ≠ n) (kw : Keywords) :
    (kw.drop n).has m = kw.has m := by
  rw [has_eq_isSome_lookup, lookup_drop_of_ne h, ← has_eq_isSome_lookup]

theorem drop_of_not_has {kw : Keywords} {n : String} (h : kw.has n = false) : kw.drop n = kw := by
  refine List.filter_eq_self.mpr fun e he => ?_
  have := List.any_eq_false.mp h e he
  simpa using this

end Keywords

theorem surplus_cons_byName {p : Parameter Value} (h : p.kind.byName = true) (ps : Signature)
    (kw : Keywords) : surplus (p :: ps) kw = surplus ps (kw.drop p.name) := by
  unfold surplus Keywords.drop
  rw [List.filter_filter]
  refine List.filter_congr fun e _ => ?_
  by_cases hn : p.name = e.1
  · simp [h, hn]
  · simp [h, hn, Ne.symm hn]

theorem surplus_cons_other {p : Parameter Value} (h : p.kind.byName = false) (ps : Signature)
    (kw : Keywords) : surplus (p :: ps) kw = surplus ps kw := by
  simp [surplus, h]

/-- A parameter that is not among the keywords leaves them as they are. -/
theorem surplus_cons_of_not_has {p : Parameter Value} {kw : Keywords} (h : kw.has p.name = false)
    (ps : Signature) : surplus (p :: ps) kw = surplus ps kw := by
  cases hp : p.kind.byName with
  | true => rw [surplus_cons_byName hp, Keywords.drop_of_not_has h]
  | false => exact surplus_cons_other hp ps kw

theorem ParameterKind.byName_of_single {kind : ParameterKind}
    (single : ¬(kind = .keywords ∨ kind = .variadic)) (notPositional : kind ≠ .positional) :
    kind.byName = true := by
  cases kind with
  | standard | keyword => rfl
  | positional => exact absurd rfl notPositional
  | variadic => exact absurd (.inr rfl) single
  | keywords => exact absurd (.inl rfl) single

/-! ### What each parameter gets -/

/-- What the parameters get from positional values and keywords; `extra` are the keywords for the
parameter that collects them. -/
def allot (extra kw : Keywords) : Signature → List Value → Bindings
  | [], _ => []
  | p :: ps, vs =>
    match p.kind, vs with
    | .positional, v :: vs => (p, some (.one v)) :: allot extra kw ps vs
    | .positional, [] => (p, none) :: allot extra kw ps []
    | .standard, v :: vs => (p, some (.one v)) :: allot extra kw ps vs
    | .standard, [] => (p, (kw.lookup p.name).map .one) :: allot extra kw ps []
    | .variadic, v :: vs => (p, some (.many (v :: vs))) :: allot extra kw ps []
    | .variadic, [] => (p, none) :: allot extra kw ps []
    | .keyword, vs => (p, (kw.lookup p.name).map .one) :: allot extra kw ps vs
    | .keywords, vs =>
      (p, if extra.isEmpty then none else some (.named extra)) :: allot extra kw ps vs

section Allot

variable {extra kw : Keywords}

/-- Without positional values, a single parameter gets the keyword by its name. -/
theorem allot_cons_nil {p : Parameter Value}
    (single : ¬(p.kind = .keywords ∨ p.kind = .variadic))
    (unnamed : p.kind = .positional → kw.lookup p.name = none) (ps : Signature) :
    allot extra kw (p :: ps) [] = (p, (kw.lookup p.name).map .one) :: allot extra kw ps [] := by
  cases hk : p.kind with
  | positional => simp [allot, hk, unnamed hk]
  | standard => simp [allot, hk]
  | keyword => simp [allot, hk]
  | variadic => exact absurd (.inr hk) single
  | keywords => exact absurd (.inl hk) single

/-- The parameters that are done by position, and those that are left, get what is allotted. -/
theorem allot_of_bindPositional (extra : Keywords) {sig left : Signature} {args : List Value}
    {front : Bindings} (h : bindPositional sig args kw = .ok (front, left)) :
    allot extra kw sig args = front ++ allot extra kw left [] ∧ surplus sig kw = surplus left kw ∧
      sig = front.map Prod.fst ++ left := by
  induction sig generalizing args front with
  | nil =>
    cases args with
    | nil =>
      obtain ⟨rfl, rfl⟩ : [] = front ∧ [] = left := by simpa [bindPositional] using h
      exact ⟨rfl, rfl, rfl⟩
    | cons v vs => simp [bindPositional] at h
  | cons p ps ih =>
    cases args with
    | nil =>
      by_cases hv : p.kind = .variadic
      · obtain ⟨rfl, rfl⟩ : [(p, none)] = front ∧ ps = left := by
          simpa [bindPositional, hv] using h
        refine ⟨?_, surplus_cons_other (by rw [hv]; rfl) ps kw, rfl⟩
        simp [allot, hv]
      · -- Nothing is done here: all parameters are left.
        obtain ⟨rfl, rfl⟩ : [] = front ∧ p :: ps = left := by
          simp only [bindPositional, hv, if_false] at h
          split_ifs at h <;> simpa using h
        exact ⟨rfl, rfl, rfl⟩
    | cons v vs =>
      simp only [bindPositional] at h
      split_ifs at h with hn hv hh
      · obtain ⟨rfl, rfl⟩ : [(p, some (.many (v :: vs)))] = front ∧ ps = left := by simpa using h
        refine ⟨?_, surplus_cons_other (by rw [hv]; rfl) ps kw, rfl⟩
        simp [allot, hv]
      · -- One value goes to `p`, which is not among the keywords if it could be named.
        obtain ⟨⟨done, rest⟩, step, he⟩ := bind_eq_ok.mp h
        obtain ⟨rfl, rfl⟩ := Prod.mk.inj (Except.ok.inj he)
        obtain ⟨hallot, hsurplus, hparams⟩ := ih step
        refine ⟨?_, ?_, by rw [hparams]; rfl⟩
        · cases hk : p.kind <;> simp_all [allot]
        · rw [← hsurplus]
          by_cases hp : p.kind = .positional
          · exact surplus_cons_other (by rw [hp]; rfl) ps kw
          · exact surplus_cons_of_not_has (by simpa [hp] using hh) ps

/-- The parameters that are left get what is allotted to them. Those keywords count that have not
been dropped yet, among which are the names of these parameters. -/
theorem allot_of_bindNamed {left : Signature} {now rest : Keywords} {back : Bindings}
    (distinct : (left.map (·.name)).Nodup)
    (present : ∀ p ∈ left, now.lookup p.name = kw.lookup p.name)
    (h : bindNamed left now = .ok (back, rest)) :
    back = allot [] kw left [] ∧ rest = surplus left now := by
  induction left generalizing now rest back with
  | nil =>
    obtain ⟨rfl, rfl⟩ : [] = back ∧ now = rest := by simpa [bindNamed] using h
    exact ⟨rfl, (List.filter_eq_self.mpr fun _ _ => rfl).symm⟩
  | cons p ps ih =>
    obtain ⟨hnew, hps⟩ := List.nodup_cons.mp distinct
    have hp : now.lookup p.name = kw.lookup p.name := present p (List.mem_cons_self ..)
    have later : ∀ q ∈ ps, now.lookup q.name = kw.lookup q.name :=
      fun q hq => present q (List.mem_cons_of_mem p hq)
    rw [bindNamed] at h
    by_cases hk : p.kind = .keywords ∨ p.kind = .variadic
    · rw [if_pos hk] at h
      obtain ⟨⟨done, others⟩, step, he⟩ := bind_eq_ok.mp h
      obtain ⟨rfl, rfl⟩ := Prod.mk.inj (Except.ok.inj he)
      obtain ⟨rfl, rfl⟩ := ih hps later step
      refine ⟨?_, (surplus_cons_other ?_ ps now).symm⟩
      · rcases hk with hk | hk <;> simp [allot, hk]
      · rcases hk with hk | hk <;> rw [hk] <;> rfl
    · rw [if_neg hk] at h
      cases hl : now.lookup p.name with
      | some v =>
        simp only [hl] at h
        split_ifs at h with hpos
        obtain ⟨⟨done, others⟩, step, he⟩ := bind_eq_ok.mp h
        obtain ⟨rfl, rfl⟩ := Prod.mk.inj (Except.ok.inj he)
        have dropped : ∀ q ∈ ps, (now.drop p.name).lookup q.name = kw.lookup q.name := by
          intro q hq
          have hne : q.name ≠ p.name := fun e => hnew (List.mem_map.mpr ⟨q, hq, e⟩)
          rw [Keywords.lookup_drop_of_ne hne, later q hq]
        obtain ⟨rfl, rfl⟩ := ih hps dropped step
        have byName : p.kind.byName = true := ParameterKind.byName_of_single hk hpos
        refine ⟨?_, (surplus_cons_byName byName ps now).symm⟩
        rw [allot_cons_nil hk (fun h => absurd h hpos), ← hp, hl]
        rfl
      | none =>
        simp only [hl] at h
        split_ifs at h with hdefault
        obtain ⟨⟨done, others⟩, step, he⟩ := bind_eq_ok.mp h
        obtain ⟨rfl, rfl⟩ := Prod.mk.inj (Except.ok.inj he)
        obtain ⟨rfl, rfl⟩ := ih hps later step
        have absent : now.has p.name = false := by rw [Keywords.has_eq_isSome_lookup, hl]; rfl
        refine ⟨?_, (surplus_cons_of_not_has absent ps).symm⟩
        rw [allot_cons_nil hk (fun _ => hp ▸ hl), ← hp, hl]
        rfl

/-- With keywords to collect, the parameter that collects them is the only one that gets something
else than without. -/
theorem allot_of_collected (h : extra ≠ []) (sig : Signature) (args : List Value) :
    allot extra kw sig args =
      (allot [] kw sig args).map fun (p, b) =>
        (p, if p.kind = .keywords then some (.named extra) else b) := by
  have hne : extra.isEmpty = false := by simpa using h
  induction sig generalizing args with
  | nil => rfl
  | cons p ps ih => cases hk : p.kind <;> cases args <;> simp [allot, hk, ih, hne]

end Allot

/-- Binding gives every parameter what is allotted to it. -/
theorem bind_eq_allot {sig : Signature} {args : List Value} {kw : Keywords} {bs : Bindings}
    (distinct : (sig.map (·.name)).Nodup) (h : bind sig args kw = .ok bs) :
    bs = allot (surplus sig kw) kw sig args := by
  obtain ⟨⟨front, left⟩, hfront, h⟩ := bind_eq_ok.mp h
  obtain ⟨⟨back, rest⟩, hback, h⟩ := bind_eq_ok.mp h
  obtain ⟨hallot, hsurplus, hparams⟩ := allot_of_bindPositional [] hfront
  have hleft : (left.map (·.name)).Nodup := by
    rw [hparams, List.map_append] at distinct
    exact (List.nodup_append.mp distinct).2.1
  obtain ⟨rfl, rfl⟩ := allot_of_bindNamed hleft (fun _ _ => rfl) hback
  have collected : bindRest (allot [] kw sig args) (surplus sig kw) = .ok bs := by
    rw [hallot, hsurplus]
    exact h
  cases hs : surplus sig kw with
  | nil =>
    rw [hs] at collected
    exact (Except.ok.inj collected).symm
  | cons e es =>
    rw [hs] at collected
    simp only [bindRest] at collected
    split_ifs at collected with hany
    rw [allot_of_collected (List.cons_ne_nil e es)]
    exact (Except.ok.inj collected).symm

end CallContract
