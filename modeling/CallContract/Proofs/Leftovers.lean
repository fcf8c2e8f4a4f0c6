import CallContract.Proofs.Binding
import CallContract.Proofs.Gates
import Mathlib.Data.List.Nodup

/-!
# Keywords that pass by the gate

Before the gate of the arguments, keywords are given by position as far as the signature allows
(`Contract.bindKeywords`). The positional values go to the gate; the keywords that are left over
reach the implementation as they are. They should name only parameters that cannot be given by
position, or be collected.

What is given by position ends at the first parameter that gets nothing. So a parameter that is left
out keeps those after it from the gate, although they are given by name (`LeavesGap`). Nothing
else does: this is `bindKeywords_gated_iff`.
-/

namespace CallContract

/-! ### By position and by name -/

namespace Bindings

/-- Whether a parameter that can be given by position has got something. -/
def placed (pb : Parameter Value × Option Binding) : Bool :=
  pb.1.kind != .keyword && pb.1.kind != .keywords && pb.2.isSome

/-- What is given by name is what follows the parameters that are given by position. -/
theorem named_eq_asKeywords (bs : Bindings) : named bs = asKeywords (bs.dropWhile placed) := by
  induction bs with
  | nil => rfl
  | cons pb bs ih =>
    obtain ⟨p, b⟩ := pb
    rw [named, List.dropWhile_cons]
    by_cases hk : p.kind = .keyword ∨ p.kind = .keywords
    · rw [if_pos hk, if_neg (by rcases hk with hk | hk <;> simp [placed, hk])]
    · rw [if_neg hk]
      obtain ⟨hkeyword, hkeywords⟩ := not_or.mp hk
      cases b with
      | none => simp [placed, asKeywords]
      | some b => simp [placed, hkeyword, hkeywords, ih]

theorem mem_asKeywords {e : String × Value} {bs : Bindings} :
    e ∈ asKeywords bs ↔ ∃ pb ∈ bs, pb.2 = some (.one e.2) ∧ pb.1.name = e.1 ∨
      ∃ kw, pb.2 = some (.named kw) ∧ e ∈ kw := by
  induction bs with
  | nil => simp [asKeywords]
  | cons pb bs ih =>
    obtain ⟨p, b⟩ := pb
    simp only [List.mem_cons, exists_eq_or_imp, ← ih]
    rcases b with _ | ⟨v | vs | kw⟩
    · simp [asKeywords]
    · simp [asKeywords, Prod.ext_iff, eq_comm, and_comm]
    · simp [asKeywords]
    · simp [asKeywords]

end Bindings

/-! ### Parameters that are left out -/

/-- The place of a kind of parameters in a signature. -/
def ParameterKind.rank : ParameterKind → Nat
  | .positional => 0
  | .standard => 1
  | .variadic => 2
  | .keyword => 3
  | .keywords => 4

/-- A signature as functions have it: the kinds are in order, and no two parameters share a name. -/
structure Signature.WellFormed (sig : Signature) : Prop where
  ordered : sig.Pairwise fun p q => p.kind.rank ≤ q.kind.rank
  distinct : (sig.map (·.name)).Nodup

/-- Whether a parameter that no positional value reaches gets nothing, although it could be given by
position. -/
def LeftOut (kw : Keywords) (p : Parameter Value) : Prop :=
  p.kind = .positional ∨ p.kind = .standard ∧ kw.has p.name = false

/-- Whether a call with `n` positional values leaves out a parameter before one that could be given
by position as well and is among the keywords. -/
def LeavesGap (sig : Signature) (n : Nat) (kw : Keywords) : Prop :=
  ∃ p q, List.Sublist [p, q] (sig.drop n) ∧ LeftOut kw p ∧
    q.kind = .standard ∧ kw.has q.name = true

section Gap

variable {extra kw : Keywords} {p : Parameter Value} {ps : Signature}

theorem leavesGap_cons_succ (n : Nat) :
    LeavesGap (p :: ps) (n + 1) kw ↔ LeavesGap ps n kw := Iff.rfl

/-- After a parameter that is left out, every named one makes a gap. -/
theorem leavesGap_cons_of_leftOut (h : LeftOut kw p) :
    LeavesGap (p :: ps) 0 kw ↔ ∃ q ∈ ps, q.kind = .standard ∧ kw.has q.name = true := by
  constructor
  · rintro ⟨p', q, hsub, -, hkind, hname⟩
    have hmem : q ∈ ps := by
      rcases List.sublist_cons_iff.mp hsub with hsub | ⟨r, hr, hsub⟩
      · exact hsub.subset (by simp)
      · obtain ⟨-, rfl⟩ := List.cons.inj hr
        exact hsub.subset (by simp)
    exact ⟨q, hmem, hkind, hname⟩
  · rintro ⟨q, hmem, hkind, hname⟩
    exact ⟨p, q, (List.singleton_sublist.mpr hmem).cons_cons p, h, hkind, hname⟩

/-- A parameter that is given something makes no gap. -/
theorem leavesGap_cons_of_given (h : ¬ LeftOut kw p) :
    LeavesGap (p :: ps) 0 kw ↔ LeavesGap ps 0 kw := by
  constructor
  · rintro ⟨p', q, hsub, hout, hq⟩
    rcases List.sublist_cons_iff.mp hsub with hsub | ⟨r, hr, hsub⟩
    · exact ⟨p', q, hsub, hout, hq⟩
    · obtain ⟨rfl, rfl⟩ := List.cons.inj hr
      exact absurd hout h
  · rintro ⟨p', q, hsub, hout, hq⟩
    exact ⟨p', q, hsub.cons p, hout, hq⟩

theorem not_leavesGap_of_none_standard (h : ∀ q ∈ ps, q.kind ≠ .standard) (n : Nat) :
    ¬ LeavesGap ps n kw := by
  rintro ⟨p', q, hsub, -, hkind, -⟩
  exact h q (List.mem_of_mem_drop (hsub.subset (by simp))) hkind

/-- The ways in which the first parameter can get its share: by position, by name, nothing, or it
takes no single value by position, and neither do those after it. -/
theorem allot_cons_cases (extra kw : Keywords)
    (ordered : (p :: ps).Pairwise fun p q => p.kind.rank ≤ q.kind.rank) (args : List Value) :
    (∃ v vs, args = v :: vs ∧ (p.kind = .positional ∨ p.kind = .standard) ∧
      allot extra kw (p :: ps) args = (p, some (.one v)) :: allot extra kw ps vs) ∨
    (∃ v, args = [] ∧ p.kind = .standard ∧ kw.lookup p.name = some v ∧
      allot extra kw (p :: ps) args = (p, some (.one v)) :: allot extra kw ps []) ∨
    (args = [] ∧ LeftOut kw p ∧
      allot extra kw (p :: ps) args = (p, none) :: allot extra kw ps []) ∨
    ∀ q ∈ p :: ps, q.kind ≠ .positional ∧ q.kind ≠ .standard := by
  have later (h : 2 ≤ p.kind.rank) :
      ∀ q ∈ p :: ps, q.kind ≠ .positional ∧ q.kind ≠ .standard := by
    intro q hq
    have hrank : 2 ≤ q.kind.rank := by
      rcases List.mem_cons.mp hq with rfl | hq
      · exact h
      · exact Nat.le_trans h ((List.pairwise_cons.mp ordered).1 q hq)
    constructor <;> intro hk <;> simp [hk, ParameterKind.rank] at hrank
  cases hk : p.kind with
  | positional =>
    cases args with
    | cons v vs => exact .inl ⟨v, vs, rfl, .inl rfl, by simp [allot, hk]⟩
    | nil => exact .inr (.inr (.inl ⟨rfl, .inl hk, by simp [allot, hk]⟩))
  | standard =>
    cases args with
    | cons v vs => exact .inl ⟨v, vs, rfl, .inr rfl, by simp [allot, hk]⟩
    | nil =>
      cases hl : kw.lookup p.name with
      | some v => exact .inr (.inl ⟨v, rfl, rfl, rfl, by simp [allot, hk, hl]⟩)
      | none =>
        have absent : kw.has p.name = false := by rw [Keywords.has_eq_isSome_lookup, hl]; rfl
        exact .inr (.inr (.inl ⟨rfl, .inr ⟨hk, absent⟩, by simp [allot, hk, hl]⟩))
  | variadic => exact .inr (.inr (.inr (later (by rw [hk]; decide))))
  | keyword => exact .inr (.inr (.inr (later (by rw [hk]; decide))))
  | keywords => exact .inr (.inr (.inr (later (by rw [hk]; decide))))

/-- What a parameter gets that no positional value reaches. -/
def unreached (extra kw : Keywords) (p : Parameter Value) : Option Binding :=
  match p.kind with
  | .standard => (kw.lookup p.name).map .one
  | .keyword => (kw.lookup p.name).map .one
  | .keywords => if extra.isEmpty then none else some (.named extra)
  | _ => none

theorem allot_nil_eq_map (sig : Signature) :
    allot extra kw sig [] = sig.map fun p => (p, unreached extra kw p) := by
  induction sig with
  | nil => rfl
  | cons p ps ih => cases hk : p.kind <;> simp [allot, unreached, hk, ih]

/-- The sort of what a parameter gets is that of its kind. -/
theorem mem_allot {sig : Signature} {args : List Value} {pb : Parameter Value × Option Binding}
    (h : pb ∈ allot extra kw sig args) :
    pb.1 ∈ sig ∧
      (∀ v, pb.2 = some (.one v) → pb.1.kind ≠ .variadic ∧ pb.1.kind ≠ .keywords) ∧
      (∀ vs, pb.2 = some (.many vs) → pb.1.kind = .variadic) ∧
      ∀ ks, pb.2 = some (.named ks) → pb.1.kind = .keywords ∧ ks = extra := by
  induction sig generalizing args with
  | nil => simp [allot] at h
  | cons p ps ih =>
    have step : (pb.1 = p ∧
        (∀ v, pb.2 = some (.one v) → p.kind ≠ .variadic ∧ p.kind ≠ .keywords) ∧
        (∀ vs, pb.2 = some (.many vs) → p.kind = .variadic) ∧
        ∀ ks, pb.2 = some (.named ks) → p.kind = .keywords ∧ ks = extra) ∨
        ∃ vs, pb ∈ allot extra kw ps vs := by
      cases hk : p.kind <;> cases args <;> simp only [allot, hk, List.mem_cons] at h <;>
        rcases h with rfl | h <;> first | exact .inr ⟨_, h⟩ | grind [Option.map_eq_some_iff]
    rcases step with ⟨rfl, hsort⟩ | ⟨vs, h⟩
    · exact ⟨List.mem_cons_self .., hsort⟩
    · obtain ⟨hmem, hsort⟩ := ih h
      exact ⟨List.mem_cons_of_mem p hmem, hsort⟩

/-- Among the parameters that no positional value reaches, exactly the named ones can get a value by
name. -/
theorem exists_standard_unreached (extra : Keywords) :
    (∃ pb ∈ allot extra kw ps [], pb.1.kind = .standard ∧ pb.2.isSome) ↔
      ∃ q ∈ ps, q.kind = .standard ∧ kw.has q.name = true := by
  rw [allot_nil_eq_map]
  constructor
  · rintro ⟨pb, hmem, hkind, hsome⟩
    obtain ⟨q, hq, rfl⟩ := List.mem_map.mp hmem
    have hkind : q.kind = .standard := hkind
    refine ⟨q, hq, hkind, ?_⟩
    simpa [unreached, hkind, Keywords.has_eq_isSome_lookup] using hsome
  · rintro ⟨q, hq, hkind, hname⟩
    refine ⟨_, List.mem_map.mpr ⟨q, hq, rfl⟩, hkind, ?_⟩
    simpa [unreached, hkind, Keywords.has_eq_isSome_lookup] using hname

/-- A value that could have been given by position is given by name exactly after a gap. -/
theorem exists_standard_named_iff (extra : Keywords) {sig : Signature}
    (ordered : sig.Pairwise fun p q => p.kind.rank ≤ q.kind.rank) (args : List Value) :
    (∃ pb ∈ (allot extra kw sig args).dropWhile Bindings.placed,
      pb.1.kind = .standard ∧ pb.2.isSome) ↔ LeavesGap sig args.length kw := by
  induction sig generalizing args with
  | nil => simp [allot, LeavesGap]
  | cons p ps ih =>
    have hps := (List.pairwise_cons.mp ordered).2
    rcases allot_cons_cases extra kw ordered args with
      ⟨v, vs, rfl, hk, hallot⟩ | ⟨v, rfl, hk, hl, hallot⟩ | ⟨rfl, hout, hallot⟩ | hlate
    · have placed : Bindings.placed (p, some (.one v)) = true := by
        rcases hk with hk | hk <;> simp [Bindings.placed, hk]
      rw [hallot, List.dropWhile_cons_of_pos placed, ih hps vs]
      exact (leavesGap_cons_succ vs.length).symm
    · have placed : Bindings.placed (p, some (.one v)) = true := by simp [Bindings.placed, hk]
      have given : ¬ LeftOut kw p := by
        simp [LeftOut, hk, Keywords.has_eq_isSome_lookup, hl]
      rw [hallot, List.dropWhile_cons_of_pos placed, ih hps []]
      exact (leavesGap_cons_of_given given).symm
    · -- Giving by position ends at `p`; what decides is whether a later one is named.
      have stops : ¬ Bindings.placed (p, none) = true := by simp [Bindings.placed]
      rw [hallot, List.dropWhile_cons_of_neg stops, List.length_nil,
        leavesGap_cons_of_leftOut hout, ← exists_standard_unreached extra]
      simp
    · refine iff_of_false ?_ (not_leavesGap_of_none_standard (fun q hq => (hlate q hq).2) _)
      rintro ⟨pb, hmem, hkind, -⟩
      exact (hlate pb.1 (mem_allot ((List.dropWhile_sublist _).subset hmem)).1).2 hkind

/-- No parameter that has to be given by position is given by name. -/
theorem positional_not_named {sig : Signature}
    (ordered : sig.Pairwise fun p q => p.kind.rank ≤ q.kind.rank) (args : List Value)
    {pb : Parameter Value × Option Binding}
    (h : pb ∈ (allot extra kw sig args).dropWhile Bindings.placed) (hk : pb.1.kind = .positional) :
    pb.2 = none := by
  induction sig generalizing args with
  | nil => simp [allot] at h
  | cons p ps ih =>
    have hps := (List.pairwise_cons.mp ordered).2
    rcases allot_cons_cases extra kw ordered args with
      ⟨v, vs, rfl, hp, hallot⟩ | ⟨v, rfl, hp, hl, hallot⟩ | ⟨rfl, hout, hallot⟩ | hlate
    · have placed : Bindings.placed (p, some (.one v)) = true := by
        rcases hp with hp | hp <;> simp [Bindings.placed, hp]
      rw [hallot, List.dropWhile_cons_of_pos placed] at h
      exact ih hps vs h
    · have placed : Bindings.placed (p, some (.one v)) = true := by simp [Bindings.placed, hp]
      rw [hallot, List.dropWhile_cons_of_pos placed] at h
      exact ih hps [] h
    · have hmem := (List.dropWhile_sublist _).subset h
      rw [hallot, allot_nil_eq_map] at hmem
      rcases List.mem_cons.mp hmem with rfl | hmem
      · rfl
      · obtain ⟨q, -, rfl⟩ := List.mem_map.mp hmem
        have hq : q.kind = .positional := hk
        simp [unreached, hq]
    · exact absurd hk (hlate pb.1 (mem_allot ((List.dropWhile_sublist _).subset h)).1).1

end Gap

/-! ### What the gate sees -/

/-- Whether all values of parameters that can be given by position or by name are among those given
by position, each at the place of its parameter. -/
def AllGated (sig : Signature) (args : List Value) (kw : Keywords) (xs : List Value) : Prop :=
  ∀ (i : Nat) (p : Parameter Value) (v : Value), sig[i]? = some p → p.kind = .standard →
    args[i]?.or (kw.lookup p.name) = some v → xs[i]? = some v

/-- Whether keywords name only parameters that cannot be given by position, or are collected. -/
def OnlyByName (sig : Signature) (kw : Keywords) : Prop :=
  ∀ e ∈ kw, (∃ p ∈ sig, p.kind = .keyword ∧ p.name = e.1) ∨
    (∃ p ∈ sig, p.kind = .keywords) ∧ e ∈ surplus sig kw

section Gated

variable {extra kw : Keywords} {p : Parameter Value} {ps sig : Signature}

theorem allGated_cons {args xs : List Value} {x : Value}
    (first : ∀ v, p.kind = .standard → args[0]?.or (kw.lookup p.name) = some v → v = x) :
    AllGated (p :: ps) args kw (x :: xs) ↔ AllGated ps args.tail kw xs := by
  constructor
  · intro h i q v hq hk hv
    exact h (i + 1) q v hq hk (by rwa [List.getElem?_tail] at hv)
  · intro h i q v hq hk hv
    cases i with
    | zero =>
      obtain rfl : p = q := by simpa using hq
      simp [first v hk hv]
    | succ i => exact h i q v (by simpa using hq) hk (by rwa [List.getElem?_tail])

theorem allGated_cons_of_leftOut (h : LeftOut kw p) :
    AllGated (p :: ps) [] kw [] ↔ ¬ ∃ q ∈ ps, q.kind = .standard ∧ kw.has q.name = true := by
  constructor
  · rintro gated ⟨q, hmem, hk, hname⟩
    obtain ⟨i, hi⟩ := List.mem_iff_getElem?.mp hmem
    rw [Keywords.has_eq_isSome_lookup] at hname
    obtain ⟨v, hv⟩ := Option.isSome_iff_exists.mp hname
    have := gated (i + 1) q v (by simpa using hi) hk (by simpa using hv)
    simp at this
  · intro none i q v hq hk hv
    have hv : kw.lookup q.name = some v := by simpa using hv
    have named : kw.has q.name = true := by rw [Keywords.has_eq_isSome_lookup, hv]; rfl
    cases i with
    | zero =>
      obtain rfl : p = q := by simpa using hq
      rcases h with h | ⟨-, h⟩
      · simp [h] at hk
      · simp [h] at named
    | succ i => exact absurd ⟨q, List.mem_of_getElem? (by simpa using hq), hk, named⟩ none

theorem positional_cons_of_placed {v : Value} {bs : Bindings}
    (h : p.kind = .positional ∨ p.kind = .standard) :
    Bindings.positional ((p, some (.one v)) :: bs) = v :: Bindings.positional bs := by
  rcases h with h | h <;> simp [Bindings.positional, h]

/-- The gate sees all that it should, unless there is a gap. -/
theorem allGated_iff (ordered : sig.Pairwise fun p q => p.kind.rank ≤ q.kind.rank)
    (args : List Value) :
    AllGated sig args kw (Bindings.positional (allot extra kw sig args)) ↔
      ¬ LeavesGap sig args.length kw := by
  induction sig generalizing args with
  | nil => simp [AllGated, LeavesGap]
  | cons p ps ih =>
    have hps := (List.pairwise_cons.mp ordered).2
    rcases allot_cons_cases extra kw ordered args with
      ⟨v, vs, rfl, hk, hallot⟩ | ⟨v, rfl, hk, hl, hallot⟩ | ⟨rfl, hout, hallot⟩ | hlate
    · rw [hallot, positional_cons_of_placed hk, allGated_cons, List.tail_cons, ih hps vs]
      · exact not_congr (leavesGap_cons_succ vs.length).symm
      · intro w _ hw
        simpa [eq_comm] using hw
    · have given : ¬ LeftOut kw p := by
        simp [LeftOut, hk, Keywords.has_eq_isSome_lookup, hl]
      rw [hallot, positional_cons_of_placed (.inr hk), allGated_cons, List.tail_nil, ih hps []]
      · exact not_congr (leavesGap_cons_of_given given).symm
      · intro w _ hw
        simpa [hl, eq_comm] using hw
    · have stops : Bindings.positional ((p, none) :: allot extra kw ps []) = [] := by
        simp [Bindings.positional]
      rw [hallot, stops, allGated_cons_of_leftOut hout, List.length_nil,
        leavesGap_cons_of_leftOut hout]
    · refine iff_of_true ?_ (not_leavesGap_of_none_standard (fun q hq => (hlate q hq).2) _)
      intro i q v hq hk _
      exact absurd hk (hlate q (List.mem_of_getElem? hq)).2

/-- The keywords that are left over name only what they should, unless there is a gap. -/
theorem onlyByName_iff (wf : sig.WellFormed) (args : List Value) :
    OnlyByName sig (Bindings.named (allot (surplus sig kw) kw sig args)) ↔
      ¬ LeavesGap sig args.length kw := by
  rw [← exists_standard_named_iff (surplus sig kw) wf.ordered args,
    Bindings.named_eq_asKeywords]
  constructor
  · rintro only ⟨⟨p, b⟩, hmem, hk, hsome⟩
    obtain ⟨hp, -, hmany, hnamed⟩ := mem_allot ((List.dropWhile_sublist _).subset hmem)
    obtain ⟨b, rfl⟩ := Option.isSome_iff_exists.mp hsome
    dsimp only at hp hk hmany hnamed
    cases b with
    | one v =>
      rcases only (p.name, v) (Bindings.mem_asKeywords.mpr ⟨_, hmem, .inl ⟨rfl, rfl⟩⟩) with
        ⟨q, hq, hqk, hname⟩ | ⟨-, hsurplus⟩
      · obtain rfl : q = p := List.inj_on_of_nodup_map wf.distinct hq hp hname
        simp [hqk] at hk
      · have := (List.mem_filter.mp hsurplus).2
        simp only [Bool.not_eq_true', List.any_eq_false] at this
        exact this p hp (by simp [hk, ParameterKind.byName])
    | many vs => simp [hk] at hmany
    | named ks => simp [hk] at hnamed
  · intro none e he
    obtain ⟨⟨p, b⟩, hmem, hb⟩ := Bindings.mem_asKeywords.mp he
    obtain ⟨hp, hone, hmany, hnamed⟩ := mem_allot ((List.dropWhile_sublist _).subset hmem)
    rcases hb with ⟨rfl, hname⟩ | ⟨ks, rfl, hks⟩
    · -- A value of its own: the parameter can only be given by name.
      obtain ⟨hvariadic, hkeywords⟩ := hone e.2 rfl
      refine .inl ⟨p, hp, ?_, hname⟩
      cases hk : p.kind with
      | positional => cases positional_not_named wf.ordered args hmem hk
      | standard => exact absurd ⟨_, hmem, hk, rfl⟩ none
      | keyword => rfl
      | variadic => exact absurd hk hvariadic
      | keywords => exact absurd hk hkeywords
    · -- A collected keyword: no parameter takes it by its name.
      obtain ⟨hk, rfl⟩ := hnamed ks rfl
      refine .inr ⟨⟨p, hp, hk⟩, List.mem_filter.mpr ⟨?_, (List.mem_filter.mp hks).2⟩⟩
      exact he

end Gated

namespace Contract

/-- **What passes by the gate.** Once arguments are bound, the gate of the arguments checks the
tuple `xs` and the keywords `left` go around it to the implementation. These name only parameters
that have to be given by name, or are collected, and every other value is checked at its place,
exactly if the call leaves no gap. -/
theorem bindKeywords_gated_iff {sig : Signature} (wf : sig.WellFormed) {args xs : List Value}
    {kw left : Keywords} (bound : bindKeywords (some sig) args kw = .ok (xs, left)) :
    (∀ (apply : Caller) (c : Value) (face : Face), face.signature = some sig →
      gateArgs apply c face args kw = (do
        let schema ← Run.lift (c.ask Boundary.args.schemaName)
        let gated ← gate apply .args face.name schema (.tuple .fresh xs)
        let ys ← Run.require .wrongType gated.iterate?
        return (ys, left))) ∧
      (OnlyByName sig left ↔ ¬ LeavesGap sig args.length kw) ∧
      (AllGated sig args kw xs ↔ ¬ LeavesGap sig args.length kw) := by
  refine ⟨fun apply c face hface => ?_, ?_⟩
  · simp only [gateArgs, hface, bound]
  · cases kw with
    | nil =>
      -- Without keywords nothing is bound, and nothing is left over.
      obtain ⟨rfl, rfl⟩ : args = xs ∧ [] = left := by simpa [bindKeywords] using bound
      have noGap : ¬ LeavesGap sig args.length [] := by
        rintro ⟨p, q, -, -, -, hname⟩
        simp [Keywords.has] at hname
      refine ⟨iff_of_true (fun e he => by simp at he) noGap, iff_of_true ?_ noGap⟩
      intro i p v _ _ hv
      simpa using hv
    | cons e es =>
      obtain ⟨bs, hbind, he⟩ := bind_eq_ok.mp bound
      obtain ⟨rfl, rfl⟩ := Prod.mk.inj (Except.ok.inj he)
      rw [bind_eq_allot wf.distinct hbind]
      exact ⟨onlyByName_iff wf args, allGated_iff wf.ordered args⟩

/-- Parameters of which the last two may be left out. -/
def optionalTail : Signature :=
  [required "a" .standard, ⟨"b", .standard, some (.int 2)⟩, ⟨"c", .standard, some (.int 3)⟩]

theorem optionalTail_wellFormed : optionalTail.WellFormed := ⟨by decide, by decide⟩

theorem bindKeywords_gated_iff_optionalTail :
    bindKeywords (some optionalTail) [.int 1] [("b", .int 5)] = .ok ([.int 1, .int 5], []) ∧
      AllGated optionalTail [.int 1] [("b", .int 5)] [.int 1, .int 5] := by
  refine ⟨rfl, (bindKeywords_gated_iff optionalTail_wellFormed rfl).2.2.mpr ?_⟩
  have noGap : ¬ LeavesGap optionalTail 1 [("b", .int 5)] := by
    have given : ¬ LeftOut [("b", .int 5)] (⟨"b", .standard, some (.int 2)⟩ : Parameter Value) := by
      simp [LeftOut, Keywords.has]
    have leftOut : LeftOut [("b", .int 5)] (⟨"c", .standard, some (.int 3)⟩ : Parameter Value) :=
      .inr ⟨rfl, rfl⟩
    rw [optionalTail, leavesGap_cons_succ, leavesGap_cons_of_given given,
      leavesGap_cons_of_leftOut leftOut]
    simp
  exact noGap

/-- A function of these parameters that gives them back. -/
def echo : Value :=
  .function (.defined Label.firstFree
    { kind := .function, name := "h", ownName := "h", path := "h", parameters := optionalTail
      body := .tuple [.var "a", .var "b", .var "c"], scope := [], doc := .null
      home := .text homeName, annotations := .dict .fresh [], attributes := [] })

theorem echo_signature : echo.signature? = some optionalTail := by
  simp only [echo, Value.signature?, Function.signature?, Definition.signature?_plain]

/-- A contract for one whole number whose arguments alone are gated. -/
def oneNumber : Contract := { empty.withArgs [.type .int] with mode := .known .args }

/-- A session in which the settings are the standard ones. -/
def settled : Session := { Session.start with active := some (Settings.standard.toValue .fresh) }

/-- The parameter `b` is left out before `c`, which is given by name: its value, which no schema
has accepted, passes by the gate and reaches the implementation. -/
theorem optionalTail_passes_ungated :
    bindKeywords (some optionalTail) [.int 1] [("c", .text "x")] =
        .ok ([.int 1], [("c", .text "x")]) ∧
      ¬ OnlyByName optionalTail [("c", .text "x")] ∧
      ¬ AllGated optionalTail [.int 1] [("c", .text "x")] [.int 1] ∧
      ((CallContract.call (.function (.checked 0 (.contract oneNumber) echo echo.face)) [.int 1]
        [("c", .text "x")]).exec settled).1 =
          .ok (.tuple .fresh [.int 1, .int 2, .text "x"]) := by
  refine ⟨rfl, ?_, ?_, ?_⟩
  · intro only
    rcases only ("c", .text "x") (by simp) with ⟨p, hp, hk, -⟩ | ⟨⟨p, hp, hk⟩, -⟩ <;>
      simp [optionalTail, required] at hp <;> rcases hp with rfl | rfl | rfl <;> cases hk
  · intro gated
    have := gated 2 ⟨"c", .standard, some (.int 3)⟩ (.text "x") rfl rfl rfl
    simp at this
  · rw [Value.face, echo_signature]
    rfl

end Contract

end CallContract
