import CallContract.Proofs.Rebinding

/-!
# What calls supply

What a call supplies to each parameter is said by the index and the name of the parameter alone
(`Signature.supplied`), and binding comes to just that: it does not matter whether a value is given
by position or by name. Calls without keywords are not bound before the gate of the arguments. This
makes no difference, as binding would give them back as they are (`Contract.bindKeywords_of_bind`).
-/

namespace CallContract

/-! ### What is bound can enter -/

section Entering

variable {extra kw : Keywords} {p : Parameter Value} {ps sig : Signature}

/-- A parameter that gets a keyword or a default is filled along with the rest. -/
theorem isSome_fill_cons (rest : (fill extra ps [] kw).isSome = true)
    (single : ¬(p.kind = .keywords ∨ p.kind = .variadic) →
      (p.kind ≠ .positional ∧ (kw.lookup p.name).isSome = true) ∨ p.default.isSome = true) :
    (fill extra (p :: ps) [] kw).isSome = true := by
  obtain ⟨fields, rest⟩ := Option.isSome_iff_exists.mp rest
  cases hk : p.kind with
  | positional =>
    obtain ⟨d, given⟩ := Option.isSome_iff_exists.mp (by simpa [hk] using single)
    simp [fill, hk, given, rest]
  | standard | keyword =>
    have value : ((kw.lookup p.name).or p.default).isSome = true := by simpa [hk] using single
    obtain ⟨d, given⟩ := Option.isSome_iff_exists.mp value
    simp [fill, hk, given, rest]
  | variadic | keywords => simp [fill, hk, rest]

/-- Parameters that are bound by name can be filled. -/
theorem isSome_fill_of_bindNamed (extra : Keywords) {left : Signature} {now rest : Keywords}
    {back : Bindings} (distinct : (left.map (·.name)).Nodup)
    (present : ∀ p ∈ left, now.lookup p.name = kw.lookup p.name)
    (h : bindNamed left now = .ok (back, rest)) : (fill extra left [] kw).isSome = true := by
  induction left generalizing now rest back with
  | nil => rfl
  | cons p ps ih =>
    obtain ⟨hnew, hps⟩ := List.nodup_cons.mp distinct
    have here := present p (List.mem_cons_self ..)
    have later : ∀ q ∈ ps, now.lookup q.name = kw.lookup q.name :=
      fun q hq => present q (List.mem_cons_of_mem p hq)
    rw [bindNamed] at h
    by_cases hk : p.kind = .keywords ∨ p.kind = .variadic
    · rw [if_pos hk] at h
      obtain ⟨⟨done, others⟩, step, -⟩ := bind_eq_ok.mp h
      exact isSome_fill_cons (ih hps later step) fun single => absurd hk single
    · rw [if_neg hk] at h
      cases hl : now.lookup p.name with
      | some v =>
        simp only [hl] at h
        split_ifs at h with hpos
        obtain ⟨⟨done, others⟩, step, -⟩ := bind_eq_ok.mp h
        have dropped : ∀ q ∈ ps, (now.drop p.name).lookup q.name = kw.lookup q.name := by
          intro q hq
          have hne : q.name ≠ p.name := fun e => hnew (List.mem_map.mpr ⟨q, hq, e⟩)
          rw [Keywords.lookup_drop_of_ne hne, later q hq]
        refine isSome_fill_cons (ih hps dropped step) fun _ => .inl ⟨hpos, ?_⟩
        rw [← here, hl]
        rfl
      | none =>
        simp only [hl] at h
        split_ifs at h with hdefault
        obtain ⟨⟨done, others⟩, step, -⟩ := bind_eq_ok.mp h
        refine isSome_fill_cons (ih hps later step) fun _ => .inr ?_
        simpa [Option.isSome_iff_ne_none] using hdefault

/-- Where the parameters that are left can be filled, those that are bound by position can be,
too. -/
theorem isSome_fill_of_bindPositional {left : Signature} {args : List Value} {front : Bindings}
    (h : bindPositional sig args kw = .ok (front, left))
    (filled : (fill extra left [] kw).isSome = true) : (fill extra sig args kw).isSome = true := by
  induction sig generalizing args front with
  | nil =>
    cases args with
    | nil => rfl
    | cons v vs => simp [bindPositional] at h
  | cons p ps ih =>
    cases args with
    | nil =>
      by_cases hv : p.kind = .variadic
      · obtain ⟨-, rfl⟩ : [(p, none)] = front ∧ ps = left := by
          simpa [bindPositional, hv] using h
        exact isSome_fill_cons filled fun single => absurd (.inr hv) single
      · obtain ⟨-, rfl⟩ : [] = front ∧ p :: ps = left := by
          simp only [bindPositional, hv, if_false] at h
          split_ifs at h <;> simpa using h
        exact filled
    | cons v vs =>
      simp only [bindPositional] at h
      split_ifs at h with hn hv hh
      · obtain ⟨-, rfl⟩ : [(p, some (.many (v :: vs)))] = front ∧ ps = left := by simpa using h
        obtain ⟨fields, filled⟩ := Option.isSome_iff_exists.mp filled
        simp [fill, hv, filled]
      · obtain ⟨⟨done, others⟩, step, h⟩ := bind_eq_ok.mp h
        obtain ⟨-, rfl⟩ := Prod.mk.inj (Except.ok.inj h)
        obtain ⟨fields, filled⟩ := Option.isSome_iff_exists.mp (ih step)
        cases hk : p.kind with
        | positional => simp [fill, hk, filled]
        | standard =>
          have absent : kw.has p.name = false := by simpa [hk] using hh
          simp [fill, hk, absent, filled]
        | variadic => exact absurd hk hv
        | keyword => exact absurd (.inl hk) hn
        | keywords => exact absurd (.inr hk) hn

/-- Arguments that can be bound can enter. -/
theorem enter_of_bind (distinct : (sig.map (·.name)).Nodup) {args : List Value} {bs : Bindings}
    (h : bind sig args kw = .ok bs) : (enter sig args kw).isSome = true := by
  obtain ⟨⟨front, left⟩, hfront, h⟩ := bind_eq_ok.mp h
  obtain ⟨⟨back, rest⟩, hback, h⟩ := bind_eq_ok.mp h
  obtain ⟨hallot, hsurplus, hparams⟩ := allot_of_bindPositional [] hfront
  have hleft : (left.map (·.name)).Nodup := by
    rw [hparams, List.map_append] at distinct
    exact (List.nodup_append.mp distinct).2.1
  obtain ⟨rfl, rfl⟩ := allot_of_bindNamed hleft (fun _ _ => rfl) hback
  unfold enter
  dsimp only
  split_ifs with refused
  · -- Keywords that are left over are bound only if a parameter collects them.
    obtain ⟨extra, uncollected⟩ := refused
    have h : bindRest (front ++ allot [] kw left []) (surplus left kw) = .ok bs := h
    obtain ⟨e, es, among⟩ := List.exists_cons_of_ne_nil extra
    rw [← hallot, ← hsurplus, among, bindRest] at h
    split_ifs at h with collects
    have parameters : (allot [] kw sig args).map Prod.fst = sig := allot_map_fst args
    have collected : sig.any (fun p => p.kind = .keywords) = true := by
      rw [← parameters, List.any_map]
      exact collects
    simp [collected] at uncollected
  · exact isSome_fill_of_bindPositional hfront
      (isSome_fill_of_bindNamed _ hleft (fun _ _ => rfl) hback)

end Entering

/-! ### What a call supplies -/

/-- A signature as functions have it, in which at most one parameter collects positional values. -/
structure Signature.Regular (sig : Signature) : Prop extends sig.Proper where
  gathers : sig.Pairwise fun p q => p.kind = .variadic → q.kind ≠ .variadic

/-- What a call supplies to the parameter at an index: the positional value there, or the keyword by
its name, or all positional values from there on, or the keywords that are left over. -/
def share (extra kw : Keywords) (args : List Value) (p : Parameter Value) (i : Nat) :
    Option Binding :=
  match p.kind with
  | .positional => args[i]?.map .one
  | .standard => (args[i]?.or (kw.lookup p.name)).map .one
  | .variadic => if i < args.length then some (.many (args.drop i)) else none
  | .keyword => (kw.lookup p.name).map .one
  | .keywords => if extra.isEmpty then none else some (.named extra)

/-- The parameters of a signature, each with what a call supplies to it. -/
def Signature.supplied (sig : Signature) (args : List Value) (kw : Keywords) : Bindings :=
  sig.zipIdx.map fun (p, i) => (p, share (surplus sig kw) kw args p i)

section Supplied

variable {extra kw : Keywords} {p : Parameter Value} {ps sig : Signature}

/-- The parameters after one that takes a single positional value. -/
theorem share_cons (v : Value) (vs : List Value) (q : Parameter Value) (i : Nat) :
    share extra kw (v :: vs) q (i + 1) = share extra kw vs q i := by
  cases hk : q.kind <;> simp [share, hk]

/-- What no positional value reaches is supplied by the keywords. -/
theorem share_nil (q : Parameter Value) (i : Nat) :
    share extra kw [] q i = unreached extra kw q := by
  cases hk : q.kind <;> simp [share, unreached, hk]

/-- The place of a parameter that is given by name does not count. -/
theorem share_of_byName {q : Parameter Value} (h : q.kind = .keyword ∨ q.kind = .keywords)
    (args : List Value) (i : Nat) : share extra kw args q i = unreached extra kw q := by
  rcases h with hk | hk <;> simp [share, unreached, hk]

theorem zipIdx_map_succ {β : Type} (g : Parameter Value → Nat → β) :
    ((p :: ps).zipIdx.map fun (q, i) => g q i) =
      g p 0 :: ps.zipIdx.map fun (q, i) => g q (i + 1) := by
  rw [List.zipIdx_cons, List.map_cons, Nat.zero_add, List.zipIdx_succ, List.map_map]
  rfl

/-- Parameters to which only keywords are supplied are allotted them. -/
theorem map_zipIdx_of_unreached {g : Parameter Value → Nat → Option Binding}
    (h : ∀ q ∈ ps, ∀ i, g q i = unreached extra kw q) :
    (ps.zipIdx.map fun (q, i) => (q, g q i)) = allot extra kw ps [] := by
  rw [allot_nil_eq_map]
  induction ps generalizing g with
  | nil => rfl
  | cons p ps ih =>
    have rest := ih fun q hq i => h q (List.mem_cons_of_mem p hq) (i + 1)
    rw [zipIdx_map_succ fun q i => (q, g q i), rest, h p (List.mem_cons_self ..)]
    rfl

/-- What is allotted to each parameter is what the call supplies to it. -/
theorem allot_eq_share (ordered : sig.Pairwise fun p q => p.kind.rank ≤ q.kind.rank)
    (gathers : sig.Pairwise fun p q => p.kind = .variadic → q.kind ≠ .variadic)
    (args : List Value) : allot extra kw sig args =
      sig.zipIdx.map fun (p, i) => (p, share extra kw args p i) := by
  induction sig generalizing args with
  | nil => rfl
  | cons p ps ih =>
    cases args with
    | nil => exact (map_zipIdx_of_unreached fun q _ i => share_nil q i).symm
    | cons v vs =>
      obtain ⟨ranks, later⟩ := List.pairwise_cons.mp ordered
      obtain ⟨alone, gathersLater⟩ := List.pairwise_cons.mp gathers
      have single (hk : p.kind = .positional ∨ p.kind = .standard) :
          allot extra kw (p :: ps) (v :: vs) = (p :: ps).zipIdx.map fun (p, i) =>
            (p, share extra kw (v :: vs) p i) := by
        have first : allot extra kw (p :: ps) (v :: vs) =
            (p, share extra kw (v :: vs) p 0) :: allot extra kw ps vs := by
          rcases hk with hk | hk <;> simp [allot, share, hk]
        rw [first, zipIdx_map_succ fun q i => (q, share extra kw (v :: vs) q i),
          ih later gathersLater vs]
        simp only [share_cons]
      have late (hk : p.kind = .keyword ∨ p.kind = .keywords) :
          allot extra kw (p :: ps) (v :: vs) = (p :: ps).zipIdx.map fun (p, i) =>
            (p, share extra kw (v :: vs) p i) := by
        have byName : ∀ q ∈ p :: ps, q.kind = .keyword ∨ q.kind = .keywords :=
          byName_of_ordered ordered (by rcases hk with hk | hk <;> simp [hk])
            (by rcases hk with hk | hk <;> simp [hk])
        rw [allot_of_byName byName]
        exact (map_zipIdx_of_unreached fun q hq i => share_of_byName (byName q hq) _ i).symm
      cases hk : p.kind with
      | positional => exact single (.inl hk)
      | standard => exact single (.inr hk)
      | keyword => exact late (.inl hk)
      | keywords => exact late (.inr hk)
      | variadic =>
        -- All positional values are taken, and the parameters that follow are given by name.
        have byName (q : Parameter Value) (hq : q ∈ ps) :
            q.kind = .keyword ∨ q.kind = .keywords := by
          have rank := ranks q hq
          have other := alone q hq hk
          cases hq : q.kind <;> simp_all [ParameterKind.rank]
        have first : allot extra kw (p :: ps) (v :: vs) =
            (p, share extra kw (v :: vs) p 0) :: allot extra kw ps [] := by
          simp [allot, share, hk]
        rw [first, zipIdx_map_succ fun q i => (q, share extra kw (v :: vs) q i)]
        congr 1
        exact (map_zipIdx_of_unreached fun q hq i => share_of_byName (byName q hq) _ (i + 1)).symm

/-- Binding gives every parameter what the call supplies to it. -/
theorem bind_eq_supplied (regular : sig.Regular) {args : List Value} {bs : Bindings}
    (h : bind sig args kw = .ok bs) : bs = sig.supplied args kw := by
  rw [bind_eq_allot regular.distinct h, allot_eq_share regular.ordered regular.gathers]
  rfl

end Supplied

/-! ### Calls by position -/

section ByPosition

variable {p : Parameter Value} {ps sig : Signature} {extra : Keywords}

/-- Without keywords, what is given back by position is what was given. -/
theorem positional_allot_nil (ordered : sig.Pairwise fun p q => p.kind.rank ≤ q.kind.rank)
    {args : List Value} (filled : (fill extra sig args []).isSome = true) :
    Bindings.positional (allot [] [] sig args) = args := by
  induction sig generalizing args with
  | nil =>
    cases args with
    | nil => rfl
    | cons v vs => cases filled
  | cons p ps ih =>
    have later := (List.pairwise_cons.mp ordered).2
    rcases allot_cons_cases [] [] ordered args with
      ⟨v, vs, rfl, hk, hallot⟩ | ⟨v, rfl, hk, hl, hallot⟩ | ⟨rfl, hout, hallot⟩ | hlate
    · have rest : (fill extra ps vs []).isSome = true := by
        rcases hk with hk | hk <;> simpa [fill, hk, Keywords.has] using filled
      rw [hallot, positional_cons_of_placed hk, ih later rest]
    · cases hl
    · rw [hallot, positional_cons_none]
    · cases args with
      | nil => exact (unplaced_of_late [] [] hlate).2
      | cons v vs =>
        by_cases hk : p.kind = .variadic
        · have rest := (unplaced_of_late [] [] fun q hq => hlate q (List.mem_cons_of_mem p hq)).2
          simp [allot, hk, Bindings.positional, rest]
        · obtain ⟨fields, filled⟩ := Option.isSome_iff_exists.mp filled
          cases eq_nil_of_fill
            (byName_of_ordered ordered (hlate p (List.mem_cons_self ..)) hk) filled

/-- Without keywords, nothing is given back by name. -/
theorem named_allot_nil (ordered : sig.Pairwise fun p q => p.kind.rank ≤ q.kind.rank)
    (args : List Value) : Bindings.named (allot [] [] sig args) = [] := by
  refine List.eq_nil_iff_forall_not_mem.mpr fun e he => ?_
  rw [Bindings.named_eq_asKeywords] at he
  obtain ⟨pb, hpb, h⟩ := Bindings.mem_asKeywords.mp he
  have none : pb.2 = none := by
    rw [(unreached_of_dropped ordered args hpb).2]
    cases hk : pb.1.kind <;> simp [unreached, hk]
  rw [none] at h
  rcases h with ⟨⟨⟩, -⟩ | ⟨_, ⟨⟩, -⟩

/-- Before the gate of the arguments, all calls that can be bound are put in the words of their
bindings. Those without keywords are not bound, but have these words already. -/
theorem Contract.bindKeywords_of_bind (regular : sig.Regular) {args : List Value} {kw : Keywords}
    {bs : Bindings} (h : bind sig args kw = .ok bs) :
    bindKeywords (some sig) args kw = .ok (bs.positional, bs.named) := by
  cases kw with
  | nil =>
    have entered := enter_of_bind regular.distinct h
    have filled : (fill [] sig args []).isSome = true := entered
    rw [bind_eq_allot regular.distinct h]
    show Except.ok (args, []) = .ok (Bindings.positional (allot [] [] sig args),
      Bindings.named (allot [] [] sig args))
    rw [positional_allot_nil regular.ordered filled, named_allot_nil regular.ordered]
  | cons e kw =>
    rw [bindKeywords, h]
    · rfl
    · exact List.cons_ne_nil e kw

end ByPosition

/-! ### Calls that are admitted -/

/-- Whether a signature admits a call: the arguments can be bound, or, if there are no keywords, the
function can be entered with them. -/
def Signature.Admits (sig : Signature) (args : List Value) (kw : Keywords) : Prop :=
  (∃ bs, bind sig args kw = .ok bs) ∨ kw = [] ∧ (enter sig args kw).isSome = true

/-- A call that a signature admits can be bound. -/
theorem Signature.Admits.bound {sig : Signature} (regular : sig.Regular) {args : List Value}
    {kw : Keywords} (admits : sig.Admits args kw) : ∃ bs, bind sig args kw = .ok bs := by
  rcases admits with bound | ⟨rfl, entered⟩
  · exact bound
  · obtain ⟨fields, entered⟩ := Option.isSome_iff_exists.mp entered
    refine bind_of_enter regular.toWellFormed entered ?_
    rintro ⟨p, -, -, named⟩
    cases named

end CallContract
