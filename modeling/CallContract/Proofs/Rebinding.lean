import CallContract.Proofs.Leftovers
import Mathlib.Data.List.TakeWhile

/-!
# Binding what was bound

Binding takes a call apart and gives it back in other words: by position as far as that goes, and
the rest by name. This module shows that a function is entered with the same variables by these
words as by those of the call (`enter_rebound`), and that binding goes well wherever the function
can be entered, unless a keyword has the name of a parameter that is given by position only and
gets nothing (`Clashes`).
-/

namespace CallContract

/-! ### Names of keywords -/

theorem Keywords.has_iff {kw : Keywords} {n : String} : kw.has n = true ↔ ∃ e ∈ kw, e.1 = n := by
  simp [has]

/-- Whether the names of all keywords are among those of others. -/
def Keywords.Among (ks kw : Keywords) : Prop := ∀ e ∈ ks, kw.has e.1 = true

theorem Keywords.Among.refl (kw : Keywords) : kw.Among kw :=
  fun e he => Keywords.has_iff.mpr ⟨e, he, rfl⟩

theorem Keywords.Among.not_has {ks kw : Keywords} (h : ks.Among kw) {n : String}
    (absent : kw.has n = false) : ks.has n = false := by
  rw [Bool.eq_false_iff] at absent ⊢
  intro present
  obtain ⟨e, he, rfl⟩ := Keywords.has_iff.mp present
  exact absent (h e he)

theorem Keywords.Among.of_drop {ks kw : Keywords} {n : String} (h : ks.Among (kw.drop n)) :
    ks.Among kw := by
  intro e he
  obtain ⟨d, hd, hn⟩ := Keywords.has_iff.mp (h e he)
  exact Keywords.has_iff.mpr ⟨d, (List.mem_filter.mp hd).1, hn⟩

namespace Bindings

theorem mem_asKeywords_of_mem_named {e : String × Value} {bs : Bindings} (h : e ∈ named bs) :
    e ∈ asKeywords bs := by
  rw [named_eq_asKeywords, mem_asKeywords] at h
  obtain ⟨pb, hpb, h⟩ := h
  exact mem_asKeywords.mpr ⟨pb, (List.dropWhile_sublist _).subset hpb, h⟩

/-- What goes to parameters by position is not given by name. -/
theorem mem_named_append {sig left : Signature} {args : List Value} {kw : Keywords}
    {front : Bindings} (h : bindPositional sig args kw = .ok (front, left)) (back : Bindings)
    {e : String × Value} (he : e ∈ named (front ++ back)) : e ∈ asKeywords back := by
  induction sig generalizing args front with
  | nil =>
    cases args with
    | nil =>
      obtain ⟨rfl, rfl⟩ : [] = front ∧ [] = left := by simpa [bindPositional] using h
      exact mem_asKeywords_of_mem_named he
    | cons v vs => simp [bindPositional] at h
  | cons p ps ih =>
    cases args with
    | nil =>
      simp only [bindPositional] at h
      split_ifs at h with hv <;> simp only [Except.ok.injEq, Prod.mk.injEq] at h
      · obtain ⟨rfl, rfl⟩ := h
        simpa [named, hv] using he
      all_goals
        obtain ⟨rfl, rfl⟩ := h
        exact mem_asKeywords_of_mem_named he
    | cons v vs =>
      simp only [bindPositional] at h
      split_ifs at h with hn hv hh
      · obtain ⟨rfl, rfl⟩ : [(p, some (.many (v :: vs)))] = front ∧ ps = left := by simpa using h
        refine mem_asKeywords_of_mem_named ?_
        simpa [named, hv] using he
      · obtain ⟨⟨done, rest⟩, step, h⟩ := bind_eq_ok.mp h
        obtain ⟨rfl, rfl⟩ := Prod.mk.inj (Except.ok.inj h)
        refine ih step ?_
        simpa [named, hn] using he

end Bindings

/-- The first parameter gets nothing, or it takes the keyword by its name. -/
theorem bindNamed_cons {p : Parameter Value} {ps : Signature} {now rest : Keywords}
    {back : Bindings} (h : bindNamed (p :: ps) now = .ok (back, rest)) :
    ∃ b next done, bindNamed ps next = .ok (done, rest) ∧ back = (p, b) :: done ∧
      (b = none ∧ next = now ∨
        ∃ v, now.lookup p.name = some v ∧ b = some (.one v) ∧ next = now.drop p.name) := by
  rw [bindNamed] at h
  by_cases hk : p.kind = .keywords ∨ p.kind = .variadic
  · rw [if_pos hk] at h
    obtain ⟨⟨done, others⟩, step, h⟩ := bind_eq_ok.mp h
    obtain ⟨rfl, rfl⟩ := Prod.mk.inj (Except.ok.inj h)
    exact ⟨none, now, done, step, rfl, .inl ⟨rfl, rfl⟩⟩
  · rw [if_neg hk] at h
    cases hl : now.lookup p.name with
    | some v =>
      simp only [hl] at h
      split_ifs at h with hpos
      obtain ⟨⟨done, others⟩, step, h⟩ := bind_eq_ok.mp h
      obtain ⟨rfl, rfl⟩ := Prod.mk.inj (Except.ok.inj h)
      exact ⟨some (.one v), now.drop p.name, done, step, rfl, .inr ⟨v, rfl, rfl, rfl⟩⟩
    | none =>
      simp only [hl] at h
      split_ifs at h with hdefault
      obtain ⟨⟨done, others⟩, step, h⟩ := bind_eq_ok.mp h
      obtain ⟨rfl, rfl⟩ := Prod.mk.inj (Except.ok.inj h)
      exact ⟨none, now, done, step, rfl, .inl ⟨rfl, rfl⟩⟩

/-- What is given by name has names of the keywords, and so has what is left over. -/
theorem among_of_bindNamed {left : Signature} {now rest : Keywords} {back : Bindings}
    (h : bindNamed left now = .ok (back, rest)) :
    back.asKeywords.Among now ∧ rest.Among now := by
  induction left generalizing now rest back with
  | nil =>
    obtain ⟨rfl, rfl⟩ : [] = back ∧ now = rest := by simpa [bindNamed] using h
    exact ⟨fun e he => absurd he List.not_mem_nil, .refl _⟩
  | cons p ps ih =>
    obtain ⟨b, next, done, step, rfl, ⟨rfl, rfl⟩ | ⟨v, found, rfl, rfl⟩⟩ := bindNamed_cons h
    · obtain ⟨named, collected⟩ := ih step
      exact ⟨named, collected⟩
    · obtain ⟨named, collected⟩ := ih step
      have here : now.has p.name = true := by rw [Keywords.has_eq_isSome_lookup, found]; rfl
      refine ⟨fun e he => ?_, collected.of_drop⟩
      rcases List.mem_cons.mp he with rfl | he
      · exact here
      · exact named.of_drop e he

/-- What is collected changes nothing of what else is given by name. -/
theorem Bindings.mem_asKeywords_collected {bs : Bindings} {kw : Keywords} {e : String × Value}
    (h : e ∈ asKeywords (bs.map fun (p, b) =>
      (p, if p.kind = .keywords then some (.named kw) else b))) : e ∈ asKeywords bs ∨ e ∈ kw := by
  obtain ⟨pb, hpb, h⟩ := mem_asKeywords.mp h
  obtain ⟨⟨p, b⟩, hmem, rfl⟩ := List.mem_map.mp hpb
  dsimp only at h
  split_ifs at h with hk
  · rcases h with ⟨h, -⟩ | ⟨_, h, he⟩ <;> cases h
    exact .inr he
  · exact .inl (mem_asKeywords.mpr ⟨(p, b), hmem, h⟩)

/-- Nothing is collected by position. -/
theorem kind_of_bindPositional {sig left : Signature} {args : List Value} {kw : Keywords}
    {front : Bindings} (h : bindPositional sig args kw = .ok (front, left)) :
    ∀ pb ∈ front, pb.1.kind ≠ .keywords := by
  induction sig generalizing args front with
  | nil =>
    cases args with
    | nil =>
      obtain ⟨rfl, rfl⟩ : [] = front ∧ [] = left := by simpa [bindPositional] using h
      exact fun pb hpb => absurd hpb List.not_mem_nil
    | cons v vs => simp [bindPositional] at h
  | cons p ps ih =>
    cases args with
    | nil =>
      simp only [bindPositional] at h
      split_ifs at h with hv <;> simp only [Except.ok.injEq, Prod.mk.injEq] at h <;>
        obtain ⟨rfl, rfl⟩ := h <;> simp_all
    | cons v vs =>
      simp only [bindPositional] at h
      split_ifs at h with hn hv hh
      · obtain ⟨rfl, rfl⟩ : [(p, some (.many (v :: vs)))] = front ∧ ps = left := by simpa using h
        simp [hv]
      · obtain ⟨⟨done, rest⟩, step, h⟩ := bind_eq_ok.mp h
        obtain ⟨rfl, rfl⟩ := Prod.mk.inj (Except.ok.inj h)
        rintro pb hpb
        rcases List.mem_cons.mp hpb with rfl | hpb
        · exact fun hk => hn (.inr hk)
        · exact ih step pb hpb

/-- What binding gives back by name has names of the keywords that were given. -/
theorem Contract.bindKeywords_among {signature : Option Signature} {args xs : List Value}
    {kw ks : Keywords} (h : bindKeywords signature args kw = .ok (xs, ks)) : ks.Among kw := by
  unfold bindKeywords at h
  split at h
  · obtain ⟨rfl, rfl⟩ := Prod.mk.inj (Except.ok.inj h)
    exact .refl _
  · obtain ⟨rfl, rfl⟩ := Prod.mk.inj (Except.ok.inj h)
    exact .refl _
  · obtain ⟨bs, bound, h⟩ := bind_eq_ok.mp h
    obtain ⟨rfl, rfl⟩ := Prod.mk.inj (Except.ok.inj h)
    obtain ⟨⟨front, left⟩, inFront, bound⟩ := bind_eq_ok.mp bound
    obtain ⟨⟨back, rest⟩, inBack, bound⟩ := bind_eq_ok.mp bound
    obtain ⟨named, collected⟩ := among_of_bindNamed inBack
    intro e he
    cases rest with
    | nil =>
      obtain rfl := Except.ok.inj bound
      exact named e (Bindings.mem_named_append inFront back he)
    | cons first others =>
      simp only [bindRest] at bound
      split_ifs at bound with hany
      obtain rfl := Except.ok.inj bound
      -- No parameter that gets a value by position collects keywords.
      rw [List.map_append, List.map_congr_left (g := id), List.map_id] at he
      swap
      · intro pb hpb
        have hk : pb.1.kind ≠ .keywords := kind_of_bindPositional inFront _ hpb
        exact congrArg (Prod.mk pb.1) (if_neg hk)
      rcases Bindings.mem_asKeywords_collected (Bindings.mem_named_append inFront _ he) with he | he
      · exact named e he
      · exact collected e he

/-! ### What a function is entered with -/

section Entering

variable {extra kw ks : Keywords} {sig ps : Signature}

/-- Without positional values, only the keywords by the names of parameters count. -/
theorem fill_congr (agree : ∀ p ∈ ps, p.kind = .standard ∨ p.kind = .keyword →
      ks.lookup p.name = kw.lookup p.name) : fill extra ps [] ks = fill extra ps [] kw := by
  induction ps with
  | nil => rfl
  | cons p ps ih =>
    have rest := ih fun q hq => agree q (List.mem_cons_of_mem p hq)
    have here := agree p (List.mem_cons_self ..)
    cases hk : p.kind <;> simp [fill, hk, rest] <;> simp [here, hk]

/-- Where no parameter takes positional values, there may be none. -/
theorem eq_nil_of_fill {args : List Value} {fields : Fields}
    (late : ∀ q ∈ ps, q.kind = .keyword ∨ q.kind = .keywords)
    (h : fill extra ps args kw = some fields) : args = [] := by
  induction ps generalizing fields with
  | nil =>
    cases args with
    | nil => rfl
    | cons v vs => cases h
  | cons p ps ih =>
    have rest {fields : Fields} (h : fill extra ps args kw = some fields) : args = [] :=
      ih (fun q hq => late q (List.mem_cons_of_mem p hq)) h
    rcases late p (List.mem_cons_self ..) with hk | hk
    · simp only [fill, hk, Option.bind_eq_bind, Option.bind_eq_some_iff,
        Option.map_eq_some_iff] at h
      obtain ⟨_, -, _, h, -⟩ := h
      exact rest h
    · simp only [fill, hk, Option.map_eq_some_iff] at h
      obtain ⟨_, h, -⟩ := h
      exact rest h

/-- Where all that is left is given by name, or not at all, the names are all that counts. -/
theorem fill_of_unplaced
    (agree : ∀ pb ∈ allot extra kw ps [], pb.1.kind = .standard ∨ pb.1.kind = .keyword →
      ks.lookup pb.1.name = kw.lookup pb.1.name) : fill extra ps [] ks = fill extra ps [] kw := by
  refine fill_congr fun q hq hk => ?_
  rw [allot_nil_eq_map] at agree
  exact agree _ (List.mem_map.mpr ⟨q, hq, rfl⟩) hk

/-- Nothing is given by position to parameters that take no single values by position. -/
theorem unplaced_of_late (extra kw : Keywords)
    (late : ∀ q ∈ ps, q.kind ≠ .positional ∧ q.kind ≠ .standard) :
    (allot extra kw ps []).dropWhile Bindings.placed = allot extra kw ps [] ∧
      Bindings.positional (allot extra kw ps []) = [] := by
  cases ps with
  | nil => exact ⟨rfl, rfl⟩
  | cons p ps =>
    obtain ⟨notPositional, notStandard⟩ := late p (List.mem_cons_self ..)
    cases hk : p.kind <;> first
      | contradiction
      | simp [allot, hk, Bindings.placed, Bindings.positional]

/-- Parameters that are given by name get nothing by position. -/
theorem allot_of_byName (byName : ∀ q ∈ ps, q.kind = .keyword ∨ q.kind = .keywords)
    (args : List Value) : allot extra kw ps args = allot extra kw ps [] := by
  induction ps with
  | nil => rfl
  | cons p ps ih =>
    have rest := ih fun q hq => byName q (List.mem_cons_of_mem p hq)
    rcases byName p (List.mem_cons_self ..) with hk | hk <;> simp [allot, hk, rest]

/-- After a parameter that takes nothing by position, so do all. -/
theorem byName_of_ordered {p : Parameter Value}
    (ordered : (p :: ps).Pairwise fun p q => p.kind.rank ≤ q.kind.rank)
    (late : p.kind ≠ .positional ∧ p.kind ≠ .standard) (notVariadic : p.kind ≠ .variadic) :
    ∀ q ∈ p :: ps, q.kind = .keyword ∨ q.kind = .keywords := by
  have first : 3 ≤ p.kind.rank := by
    cases hk : p.kind <;> simp_all [ParameterKind.rank]
  intro q hq
  have rank : 3 ≤ q.kind.rank := by
    rcases List.mem_cons.mp hq with rfl | hq
    · exact first
    · exact Nat.le_trans first ((List.pairwise_cons.mp ordered).1 q hq)
  cases hk : q.kind <;> simp_all [ParameterKind.rank]

/-- What follows the parameters that are given by position gets only what keywords give. -/
theorem unreached_of_dropped (ordered : sig.Pairwise fun p q => p.kind.rank ≤ q.kind.rank)
    (args : List Value) {pb : Parameter Value × Option Binding}
    (h : pb ∈ (allot extra kw sig args).dropWhile Bindings.placed) :
    pb.1 ∈ sig ∧ pb.2 = unreached extra kw pb.1 := by
  have unreached {ps : Signature} (h : pb ∈ allot extra kw ps []) :
      pb.1 ∈ ps ∧ pb.2 = unreached extra kw pb.1 := by
    rw [allot_nil_eq_map] at h
    obtain ⟨q, hq, rfl⟩ := List.mem_map.mp h
    exact ⟨hq, rfl⟩
  induction sig generalizing args with
  | nil => simp [allot] at h
  | cons p ps ih =>
    have later := (List.pairwise_cons.mp ordered).2
    have step {args : List Value}
        (h : pb ∈ (allot extra kw ps args).dropWhile Bindings.placed) :
        pb.1 ∈ p :: ps ∧ pb.2 = CallContract.unreached extra kw pb.1 := by
      obtain ⟨hmem, hpb⟩ := ih later args h
      exact ⟨List.mem_cons_of_mem p hmem, hpb⟩
    rcases allot_cons_cases extra kw ordered args with
      ⟨v, vs, rfl, hk, hallot⟩ | ⟨v, rfl, hk, hl, hallot⟩ | ⟨rfl, hout, hallot⟩ | hlate
    · have placed : Bindings.placed (p, some (.one v)) = true := by
        rcases hk with hk | hk <;> simp [Bindings.placed, hk]
      rw [hallot, List.dropWhile_cons_of_pos placed] at h
      exact step h
    · have placed : Bindings.placed (p, some (.one v)) = true := by simp [Bindings.placed, hk]
      rw [hallot, List.dropWhile_cons_of_pos placed] at h
      exact step h
    · exact unreached ((List.dropWhile_sublist _).subset h)
    · by_cases hk : p.kind = .variadic
      · cases args with
        | nil => exact unreached ((List.dropWhile_sublist _).subset h)
        | cons v vs =>
          have hallot : allot extra kw (p :: ps) (v :: vs) =
              (p, some (.many (v :: vs))) :: allot extra kw ps [] := by simp [allot, hk]
          have placed : Bindings.placed (p, some (.many (v :: vs))) = true := by
            simp [Bindings.placed, hk]
          rw [hallot, List.dropWhile_cons_of_pos placed] at h
          exact step h
      · have byName := byName_of_ordered ordered (hlate p (List.mem_cons_self ..)) hk
        have hmem := (List.dropWhile_sublist _).subset h
        rw [allot_of_byName byName] at hmem
        exact unreached hmem

theorem positional_cons_none (p : Parameter Value) (bs : Bindings) :
    Bindings.positional ((p, none) :: bs) = [] := by
  simp [Bindings.positional]

/-- `fill_rebound` where no parameter takes single values by position. -/
theorem fill_rebound_of_late {p : Parameter Value}
    (ordered : (p :: ps).Pairwise fun p q => p.kind.rank ≤ q.kind.rank)
    (late : ∀ q ∈ p :: ps, q.kind ≠ .positional ∧ q.kind ≠ .standard) {args : List Value}
    {fields : Fields}
    (agree : ∀ pb ∈ (allot extra kw (p :: ps) args).dropWhile Bindings.placed,
      pb.1.kind = .standard ∨ pb.1.kind = .keyword → ks.lookup pb.1.name = kw.lookup pb.1.name)
    (h : fill extra (p :: ps) args kw = some fields) :
    fill extra (p :: ps) (Bindings.positional (allot extra kw (p :: ps) args)) ks =
      some fields := by
  cases args with
  | nil =>
    obtain ⟨all, none⟩ := unplaced_of_late extra kw late
    rw [all] at agree
    rw [none, fill_of_unplaced agree, h]
  | cons v vs =>
    by_cases hk : p.kind = .variadic
    · have hallot : allot extra kw (p :: ps) (v :: vs) =
          (p, some (.many (v :: vs))) :: allot extra kw ps [] := by simp [allot, hk]
      have placed : Bindings.placed (p, some (.many (v :: vs))) = true := by
        simp [Bindings.placed, hk]
      obtain ⟨all, none⟩ := unplaced_of_late extra kw fun q hq =>
        late q (List.mem_cons_of_mem p hq)
      rw [hallot, List.dropWhile_cons_of_pos placed, all] at agree
      have given : Bindings.positional (allot extra kw (p :: ps) (v :: vs)) = v :: vs := by
        rw [hallot]
        simp [Bindings.positional, hk, none]
      rw [given]
      simpa only [fill, hk, fill_of_unplaced agree] using h
    · cases eq_nil_of_fill (byName_of_ordered ordered (late p (List.mem_cons_self ..)) hk) h

/-- In other words, by position as far as that goes and the rest by name, a function is entered with
the same variables. -/
theorem fill_rebound (ordered : sig.Pairwise fun p q => p.kind.rank ≤ q.kind.rank)
    {args : List Value} {fields : Fields}
    (agree : ∀ pb ∈ (allot extra kw sig args).dropWhile Bindings.placed,
      pb.1.kind = .standard ∨ pb.1.kind = .keyword → ks.lookup pb.1.name = kw.lookup pb.1.name)
    (apart : ∀ pb ∈ (allot extra kw sig args).takeWhile Bindings.placed,
      pb.1.kind = .standard → ks.has pb.1.name = false)
    (h : fill extra sig args kw = some fields) :
    fill extra sig (Bindings.positional (allot extra kw sig args)) ks = some fields := by
  induction sig generalizing args fields with
  | nil =>
    cases args with
    | nil => exact h
    | cons v vs => cases h
  | cons p ps ih =>
    have later := (List.pairwise_cons.mp ordered).2
    rcases allot_cons_cases extra kw ordered args with
      ⟨v, vs, rfl, hk, hallot⟩ | ⟨v, rfl, hk, hl, hallot⟩ | ⟨rfl, hout, hallot⟩ | hlate
    · have placed : Bindings.placed (p, some (.one v)) = true := by
        rcases hk with hk | hk <;> simp [Bindings.placed, hk]
      rw [hallot, List.dropWhile_cons_of_pos placed] at agree
      rw [hallot, List.takeWhile_cons_of_pos placed] at apart
      rw [hallot, positional_cons_of_placed hk]
      have rest {fields : Fields} (h : fill extra ps vs kw = some fields) :
          fill extra ps (Bindings.positional (allot extra kw ps vs)) ks = some fields :=
        ih later agree (fun pb hpb => apart pb (List.mem_cons_of_mem _ hpb)) h
      rcases hk with hk | hk
      · simp only [fill, hk, Option.map_eq_some_iff] at h ⊢
        obtain ⟨xs, h, rfl⟩ := h
        exact ⟨xs, rest h, rfl⟩
      · have absent := apart _ (List.mem_cons_self ..) hk
        simp only [fill, hk, absent, Bool.false_eq_true, if_false] at h ⊢
        split_ifs at h
        simp only [Option.map_eq_some_iff] at h ⊢
        obtain ⟨xs, h, rfl⟩ := h
        exact ⟨xs, rest h, rfl⟩
    · -- What was given by name is given by position now.
      have placed : Bindings.placed (p, some (.one v)) = true := by simp [Bindings.placed, hk]
      rw [hallot, List.dropWhile_cons_of_pos placed] at agree
      rw [hallot, List.takeWhile_cons_of_pos placed] at apart
      rw [hallot, positional_cons_of_placed (.inr hk)]
      have rest {fields : Fields} (h : fill extra ps [] kw = some fields) :
          fill extra ps (Bindings.positional (allot extra kw ps [])) ks = some fields :=
        ih later agree (fun pb hpb => apart pb (List.mem_cons_of_mem _ hpb)) h
      have absent := apart _ (List.mem_cons_self ..) hk
      simp only [fill, hk, hl, absent, Option.some_or, Option.bind_eq_bind, Option.bind_some,
        Bool.false_eq_true, if_false, Option.map_eq_some_iff] at h ⊢
      obtain ⟨xs, h, rfl⟩ := h
      exact ⟨xs, rest h, rfl⟩
    · have unplaced : ¬ Bindings.placed (p, none) = true := by simp [Bindings.placed]
      rw [hallot, List.dropWhile_cons_of_neg unplaced, ← hallot] at agree
      rw [hallot, positional_cons_none, fill_of_unplaced agree, h]
    · exact fill_rebound_of_late ordered hlate agree h

theorem allot_map_fst (args : List Value) : (allot extra kw sig args).map Prod.fst = sig := by
  induction sig generalizing args with
  | nil => rfl
  | cons p ps ih => cases hk : p.kind <;> cases args <;> simp [allot, hk, ih]

/-- What no parameter takes by its name has none of these names. -/
theorem ne_of_mem_surplus {e : String × Value} (h : e ∈ surplus sig kw) {p : Parameter Value}
    (hp : p ∈ sig) (byName : p.kind.byName = true) : p.name ≠ e.1 := by
  rintro same
  have taken : sig.any (fun p => p.kind.byName && p.name == e.1) = true :=
    List.any_eq_true.mpr ⟨p, hp, by simp [byName, same]⟩
  have free := (List.mem_filter.mp h).2
  simp [taken] at free

/-- The keywords that go to a parameter that no positional value reaches. -/
def Parameter.given (extra kw : Keywords) (p : Parameter Value) : Keywords :=
  match p.kind with
  | .standard | .keyword => ((kw.lookup p.name).map fun v => (p.name, v)).toList
  | .keywords => extra
  | _ => []

/-- Parameters that no positional value reaches give back the keywords that go to them. -/
theorem asKeywords_unreached (back : Signature) :
    Bindings.asKeywords (back.map fun p => (p, unreached extra kw p)) =
      back.flatMap (Parameter.given extra kw) := by
  induction back with
  | nil => rfl
  | cons p back ih =>
    rw [List.map_cons, List.flatMap_cons, ← ih]
    cases hk : p.kind with
    | standard | keyword =>
      cases hl : kw.lookup p.name <;>
        simp [unreached, hk, hl, Parameter.given, Bindings.asKeywords]
    | keywords =>
      cases extra <;> simp [unreached, hk, Parameter.given, Bindings.asKeywords]
    | positional | variadic => simp [unreached, hk, Parameter.given, Bindings.asKeywords]

section GivenBack

variable {back : Signature}

theorem mem_givenBack {e : String × Value}
    (h : e ∈ back.flatMap (Parameter.given (surplus sig kw) kw)) :
    (∃ q ∈ back, q.name = e.1) ∨ e ∈ surplus sig kw := by
  obtain ⟨q, hq, he⟩ := List.mem_flatMap.mp h
  cases hk : q.kind with
  | standard | keyword =>
    simp only [Parameter.given, hk, Option.mem_toList, Option.map_eq_some_iff] at he
    obtain ⟨v, -, rfl⟩ := he
    exact .inl ⟨q, hq, rfl⟩
  | keywords => exact .inr (by simpa [Parameter.given, hk] using he)
  | positional | variadic => simp [Parameter.given, hk] at he

/-- The keyword of a parameter is what it was given by name. -/
theorem lookup_givenBack (within : ∀ q ∈ back, q ∈ sig) (distinct : (back.map (·.name)).Nodup)
    {p : Parameter Value} (hp : p ∈ back) (byName : p.kind = .standard ∨ p.kind = .keyword) :
    (back.flatMap (Parameter.given (surplus sig kw) kw)).lookup p.name = kw.lookup p.name := by
  have free {e : String × Value} (he : e ∈ surplus sig kw) : p.name ≠ e.1 :=
    ne_of_mem_surplus he (within p hp) (by rcases byName with hk | hk <;> rw [hk] <;> rfl)
  induction back with
  | nil => cases hp
  | cons q back ih =>
    obtain ⟨hnew, hback⟩ := List.nodup_cons.mp distinct
    rw [List.flatMap_cons, List.lookup_append]
    rcases List.mem_cons.mp hp with rfl | hp
    · have own : p.given (surplus sig kw) kw =
          ((kw.lookup p.name).map fun v => (p.name, v)).toList := by
        rcases byName with hk | hk <;> simp [Parameter.given, hk]
      have rest : (back.flatMap (Parameter.given (surplus sig kw) kw)).lookup p.name = none := by
        refine List.lookup_eq_none_iff.mpr fun e he => ?_
        rcases mem_givenBack he with ⟨q, hq, name⟩ | he
        · exact bne_iff_ne.mpr fun same =>
            hnew (List.mem_map.mpr ⟨q, hq, name.trans same.symm⟩)
        · exact bne_iff_ne.mpr (free he)
      rw [own, rest]
      cases kw.lookup p.name <;> simp
    · have others : (q.given (surplus sig kw) kw).lookup p.name = none := by
        refine List.lookup_eq_none_iff.mpr fun e he => ?_
        have mem : e ∈ [q].flatMap (Parameter.given (surplus sig kw) kw) := by simpa using he
        rcases mem_givenBack mem with ⟨q', hq', name⟩ | he
        · have name : q.name = e.1 := List.mem_singleton.mp hq' ▸ name
          exact bne_iff_ne.mpr fun same => hnew (List.mem_map.mpr ⟨p, hp, same.trans name.symm⟩)
        · exact bne_iff_ne.mpr (free he)
      rw [others, Option.none_or]
      exact ih (fun q' hq' => within q' (List.mem_cons_of_mem q hq')) hback hp

/-- What is left over of the keywords that are given back is what was left over. -/
theorem surplus_givenBack (within : ∀ q ∈ back, q ∈ sig) :
    surplus sig (back.flatMap (Parameter.given (surplus sig kw) kw)) =
      (back.filter fun q => q.kind = .keywords).flatMap fun _ => surplus sig kw := by
  have each {q : Parameter Value} (hq : q ∈ sig) : surplus sig (q.given (surplus sig kw) kw) =
      if q.kind = .keywords then surplus sig kw else [] := by
    cases hk : q.kind with
    | standard | keyword =>
      cases hl : kw.lookup q.name with
      | none => simp [Parameter.given, hk, hl, surplus]
      | some v =>
        have taken : sig.any (fun p => p.kind.byName && p.name == q.name) = true :=
          List.any_eq_true.mpr ⟨q, hq, by simp [ParameterKind.byName, hk]⟩
        simp [Parameter.given, hk, hl, surplus, taken]
    | keywords => simp [Parameter.given, hk, surplus]
    | positional | variadic => simp [Parameter.given, hk, surplus]
  induction back with
  | nil => rfl
  | cons q back ih =>
    have rest := ih fun q' hq' => within q' (List.mem_cons_of_mem q hq')
    have here := each (within q (List.mem_cons_self ..))
    unfold surplus at here rest ⊢
    rw [List.flatMap_cons, List.filter_append, here, rest, List.filter_cons]
    by_cases hk : q.kind = .keywords <;> simp [hk]

end GivenBack

end Entering

/-- A signature as functions have it, in which at most one parameter collects keywords. -/
structure Signature.Proper (sig : Signature) : Prop extends sig.WellFormed where
  collects : (sig.filter fun p => p.kind = .keywords).length ≤ 1

/-- **Binding loses nothing.** A function is entered with the same variables by what binding gives
back as by the call. -/
theorem enter_rebound {sig : Signature} (proper : sig.Proper) {args : List Value} {kw : Keywords}
    {bs : Bindings} {fields : Fields} (bound : bind sig args kw = .ok bs)
    (entered : enter sig args kw = some fields) :
    enter sig bs.positional bs.named = some fields := by
  have allotted := bind_eq_allot proper.distinct bound
  -- The parameters in front are given by position, those at the back get what keywords give.
  let front := (bs.takeWhile Bindings.placed).map Prod.fst
  let back := (bs.dropWhile Bindings.placed).map Prod.fst
  have whole : sig = front ++ back := by
    rw [← List.map_append, List.takeWhile_append_dropWhile, allotted, allot_map_fst]
  have within : ∀ q ∈ back, q ∈ sig := fun q hq => whole ▸ List.mem_append_right front hq
  have distinct := proper.distinct
  rw [whole, List.map_append, List.nodup_append] at distinct
  obtain ⟨-, distinct, disjoint⟩ := distinct
  have named : bs.named = back.flatMap (Parameter.given (surplus sig kw) kw) := by
    have dropped : bs.dropWhile Bindings.placed =
        back.map fun p => (p, unreached (surplus sig kw) kw p) := by
      rw [List.map_map]
      refine (List.map_id _).symm.trans (List.map_congr_left fun pb hpb => Prod.ext rfl ?_)
      exact (unreached_of_dropped proper.ordered args (allotted ▸ hpb)).2
    rw [Bindings.named_eq_asKeywords, dropped, asKeywords_unreached]
  have collectors : sig.filter (fun q => q.kind = .keywords) =
      back.filter fun q => q.kind = .keywords := by
    have none : front.filter (fun q => q.kind = .keywords) = [] := by
      refine List.filter_eq_nil_iff.mpr fun q hq => ?_
      obtain ⟨pb, hpb, rfl⟩ := List.mem_map.mp hq
      have placed := List.mem_takeWhile_imp hpb
      simp_all [Bindings.placed]
    rw [whole, List.filter_append, none, List.nil_append]
  unfold enter at entered ⊢
  dsimp only at entered ⊢
  have collected : surplus sig bs.named = surplus sig kw := by
    rw [named, surplus_givenBack within, ← collectors]
    have atMost := proper.collects
    rcases found : sig.filter fun q => q.kind = .keywords with _ | ⟨q, _ | ⟨q', qs⟩⟩
    · -- No parameter collects keywords, so none are left over.
      have uncollected : sig.any (fun p => p.kind = .keywords) = false := by
        simpa [List.filter_eq_nil_iff] using found
      split_ifs at entered with refused
      rw [uncollected] at refused
      have none : surplus sig kw = [] := by simpa using refused
      rw [found, none]
      rfl
    · rw [found]
      exact List.append_nil _
    · rw [found] at atMost
      simp at atMost
  rw [collected]
  split_ifs at entered ⊢ with refused
  rw [allotted] at named ⊢
  refine fill_rebound proper.ordered (fun pb hpb hk => ?_) (fun pb hpb hk => ?_) entered
  · rw [← allotted] at named hpb ⊢
    rw [named]
    exact lookup_givenBack within distinct (List.mem_map_of_mem hpb) hk
  · rw [← allotted] at named hpb ⊢
    rw [Bool.eq_false_iff, named]
    intro present
    obtain ⟨e, he, name⟩ := Keywords.has_iff.mp present
    have hmem : pb.1 ∈ front := List.mem_map_of_mem hpb
    rcases mem_givenBack he with ⟨q, hq, same⟩ | he
    · exact disjoint _ (List.mem_map_of_mem hmem) _ (List.mem_map_of_mem hq)
        (name.symm.trans same.symm)
    · have hsig : pb.1 ∈ sig := whole ▸ List.mem_append_left back hmem
      exact ne_of_mem_surplus he hsig (by rw [hk]; rfl) name.symm

/-! ### Where binding goes well -/

/-- Whether a keyword has the name of a parameter that is given by position only and that none of
`n` positional values reaches. -/
def Signature.Clashes (sig : Signature) (n : Nat) (kw : Keywords) : Prop :=
  ∃ p ∈ sig.drop n, p.kind = .positional ∧ kw.has p.name = true

section Binding

variable {extra kw : Keywords} {p : Parameter Value} {ps sig : Signature}

/-- A parameter that gets nothing and has no default cannot be filled. -/
theorem fill_of_missing (single : ¬(p.kind = .keywords ∨ p.kind = .variadic))
    (absent : kw.lookup p.name = none) (missing : p.default = none) :
    fill extra (p :: ps) [] kw = none := by
  cases hk : p.kind with
  | positional | standard | keyword => simp [fill, hk, absent, missing]
  | variadic => exact absurd (.inr hk) single
  | keywords => exact absurd (.inl hk) single

/-- A parameter that is filled without positional values leaves the rest to be filled. -/
theorem fill_rest {fields : Fields} (h : fill extra (p :: ps) [] kw = some fields) :
    ∃ rest, fill extra ps [] kw = some rest := by
  cases hk : p.kind with
  | positional | standard | keyword =>
    simp only [fill, hk, Option.bind_eq_bind, Option.bind_eq_some_iff, Option.map_eq_some_iff] at h
    obtain ⟨_, -, rest, h, -⟩ := h
    exact ⟨rest, h⟩
  | variadic | keywords =>
    simp only [fill, hk, Option.map_eq_some_iff] at h
    obtain ⟨rest, h, -⟩ := h
    exact ⟨rest, h⟩

/-- The positional values can be given to parameters, and what is left can be filled without. -/
theorem bindPositional_of_fill (ordered : sig.Pairwise fun p q => p.kind.rank ≤ q.kind.rank)
    {args : List Value} {fields : Fields} (h : fill extra sig args kw = some fields)
    (free : ¬ sig.Clashes args.length kw) :
    ∃ front left rest, bindPositional sig args kw = .ok (front, left) ∧
      fill extra left [] kw = some rest ∧ ¬ Signature.Clashes left 0 kw := by
  induction sig generalizing args fields with
  | nil =>
    cases args with
    | nil => exact ⟨[], [], _, rfl, h, free⟩
    | cons v vs => cases h
  | cons p ps ih =>
    obtain ⟨ranks, later⟩ := List.pairwise_cons.mp ordered
    -- After the parameter that collects positional values, there are none for single ones.
    have freeAfter (hv : p.kind = .variadic) : ¬ Signature.Clashes ps 0 kw := by
      rintro ⟨q, hq, hk, -⟩
      have rank := ranks q hq
      simp [hv, hk, ParameterKind.rank] at rank
    cases args with
    | nil =>
      rw [bindPositional]
      by_cases hv : p.kind = .variadic
      · rw [if_pos hv]
        obtain ⟨rest, h⟩ := fill_rest h
        exact ⟨_, _, rest, rfl, h, freeAfter hv⟩
      · rw [if_neg hv]
        split_ifs with named positional optional
        · exact absurd ⟨p, List.mem_cons_self .., positional, named⟩ free
        · exact ⟨_, _, _, rfl, h, free⟩
        · exact ⟨_, _, _, rfl, h, free⟩
        · have absent : kw.lookup p.name = none := by
            rw [Keywords.has_eq_isSome_lookup] at named
            exact Option.not_isSome_iff_eq_none.mp named
          obtain ⟨notKeywords, missing⟩ := not_or.mp optional
          rw [fill_of_missing (by simp [notKeywords, hv]) absent (by simpa using missing)] at h
          cases h
    | cons v vs =>
      rw [bindPositional]
      by_cases hk : p.kind = .keyword ∨ p.kind = .keywords
      · have late : p.kind ≠ .positional ∧ p.kind ≠ .standard ∧ p.kind ≠ .variadic := by
          rcases hk with hk | hk <;> simp [hk]
        cases eq_nil_of_fill (byName_of_ordered ordered ⟨late.1, late.2.1⟩ late.2.2) h
      · rw [if_neg hk]
        by_cases hv : p.kind = .variadic
        · rw [if_pos hv]
          simp only [fill, hv, Option.map_eq_some_iff] at h
          obtain ⟨rest, h, -⟩ := h
          exact ⟨_, _, rest, rfl, h, freeAfter hv⟩
        · rw [if_neg hv]
          have step : (¬(kw.has p.name = true ∧ p.kind ≠ .positional)) ∧
              ∃ fields, fill extra ps vs kw = some fields := by
            cases hkind : p.kind with
            | positional =>
              simp only [fill, hkind, Option.map_eq_some_iff] at h
              obtain ⟨rest, h, -⟩ := h
              exact ⟨by simp, rest, h⟩
            | standard =>
              simp only [fill, hkind] at h
              split_ifs at h with named
              obtain ⟨rest, h, -⟩ := Option.map_eq_some_iff.mp h
              exact ⟨by simp [named], rest, h⟩
            | variadic => exact absurd hkind hv
            | keyword => exact absurd (.inl hkind) hk
            | keywords => exact absurd (.inr hkind) hk
          obtain ⟨once, _, h⟩ := step
          rw [if_neg once]
          obtain ⟨front, left, rest, bound, filled, freeLeft⟩ := ih later h free
          exact ⟨(p, some (.one v)) :: front, left, rest, by rw [bound]; rfl, filled, freeLeft⟩

/-- What is left can be given the keywords by their names. -/
theorem bindNamed_of_fill {left : Signature} {now : Keywords} {fields : Fields}
    (distinct : (left.map (·.name)).Nodup)
    (present : ∀ p ∈ left, now.lookup p.name = kw.lookup p.name)
    (h : fill extra left [] kw = some fields) (free : ¬ Signature.Clashes left 0 kw) :
    ∃ back rest, bindNamed left now = .ok (back, rest) := by
  induction left generalizing now fields with
  | nil => exact ⟨_, _, rfl⟩
  | cons p ps ih =>
    obtain ⟨hnew, hps⟩ := List.nodup_cons.mp distinct
    obtain ⟨_, filled⟩ := fill_rest h
    have here := present p (List.mem_cons_self ..)
    have freeRest : ¬ Signature.Clashes ps 0 kw := fun ⟨q, hq, clash⟩ =>
      free ⟨q, List.mem_cons_of_mem p hq, clash⟩
    have later : ∀ q ∈ ps, now.lookup q.name = kw.lookup q.name :=
      fun q hq => present q (List.mem_cons_of_mem p hq)
    rw [bindNamed]
    by_cases hk : p.kind = .keywords ∨ p.kind = .variadic
    · rw [if_pos hk]
      obtain ⟨back, rest, bound⟩ := ih hps later filled freeRest
      exact ⟨(p, none) :: back, rest, by rw [bound]; rfl⟩
    · rw [if_neg hk]
      cases hl : now.lookup p.name with
      | some v =>
        have named : kw.has p.name = true := by
          rw [Keywords.has_eq_isSome_lookup, ← here, hl]
          rfl
        have notPositional : p.kind ≠ .positional :=
          fun hk => free ⟨p, List.mem_cons_self .., hk, named⟩
        have dropped : ∀ q ∈ ps, (now.drop p.name).lookup q.name = kw.lookup q.name := by
          intro q hq
          have hne : q.name ≠ p.name := fun e => hnew (List.mem_map.mpr ⟨q, hq, e⟩)
          rw [Keywords.lookup_drop_of_ne hne, later q hq]
        obtain ⟨back, rest, bound⟩ := ih hps dropped filled freeRest
        exact ⟨(p, some (.one v)) :: back, rest, by simp [notPositional, bound, pure]; rfl⟩
      | none =>
        have hasDefault : p.default ≠ none := by
          intro missing
          rw [fill_of_missing hk (here ▸ hl) missing] at h
          cases h
        obtain ⟨back, rest, bound⟩ := ih hps later filled freeRest
        exact ⟨(p, none) :: back, rest, by simp [hasDefault, bound]⟩

/-- **Binding goes well** wherever a function can be entered, unless a keyword clashes. -/
theorem bind_of_enter (wf : sig.WellFormed) {args : List Value} {fields : Fields}
    (entered : enter sig args kw = some fields) (free : ¬ sig.Clashes args.length kw) :
    ∃ bs, bind sig args kw = .ok bs := by
  unfold enter at entered
  dsimp only at entered
  split_ifs at entered with refused
  obtain ⟨front, left, _, hfront, filled, freeLeft⟩ :=
    bindPositional_of_fill wf.ordered entered free
  obtain ⟨hallot, hsurplus, hparams⟩ := allot_of_bindPositional [] hfront
  have hleft : (left.map (·.name)).Nodup := by
    have distinct := wf.distinct
    rw [hparams, List.map_append] at distinct
    exact (List.nodup_append.mp distinct).2.1
  obtain ⟨back, rest, hback⟩ := bindNamed_of_fill hleft (fun _ _ => rfl) filled freeLeft
  obtain ⟨rfl, rfl⟩ := allot_of_bindNamed hleft (fun _ _ => rfl) hback
  have bound : bind sig args kw = bindRest (allot [] kw sig args) (surplus sig kw) := by
    rw [bind, hfront, hallot, hsurplus]
    show (bindNamed left kw >>= _) = _
    rw [hback]
    rfl
  rw [bound]
  cases hs : surplus sig kw with
  | nil => exact ⟨_, rfl⟩
  | cons e es =>
    have collects : (allot [] kw sig args).any (fun (p, _) => p.kind = .keywords) = true := by
      have found : sig.any (fun p => p.kind = .keywords) = true := by
        simpa [hs] using refused
      have parameters : (allot [] kw sig args).map Prod.fst = sig := allot_map_fst args
      rw [← parameters, List.any_map] at found
      exact found
    rw [bindRest, if_pos collects]
    exact ⟨_, rfl⟩

end Binding

/-- Before the gate of the arguments, a call that can enter a function is put in words by which it
enters it with the same variables. -/
theorem Contract.bindKeywords_of_enter {sig : Signature} (proper : sig.Proper) {args : List Value}
    {kw : Keywords} {fields : Fields} (entered : enter sig args kw = some fields)
    (free : ¬ sig.Clashes args.length kw) :
    ∃ xs ks, bindKeywords (some sig) args kw = .ok (xs, ks) ∧ enter sig xs ks = some fields := by
  cases kw with
  | nil => exact ⟨args, [], rfl, entered⟩
  | cons e kw =>
    obtain ⟨bs, bound⟩ := bind_of_enter proper.toWellFormed entered free
    refine ⟨bs.positional, bs.named, ?_, enter_rebound proper bound entered⟩
    rw [bindKeywords, bound]
    · rfl
    · exact List.cons_ne_nil e kw

end CallContract
