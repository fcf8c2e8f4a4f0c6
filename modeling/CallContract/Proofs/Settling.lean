import CallContract.Proofs.Passing
import Mathlib.Tactic.SplitIfs

/-!
# Values that settle

What a rule makes of a value passes the rule again, and nothing else is made of it: it has settled
(`Passes.settles`). A reading gives what reads as itself, a set has no equal members left, and a
predicate that has agreed to a value agrees to it again if it is a function of its argument.

Only a function in place of a type, or a validator of the engine, may make something else of what it
has made (`Rule.IsFirm`).
-/

namespace CallContract

/-! ### Readings -/

theorem readDigits_eq_ok {cs : List Char} {w : Value} (h : Scalar.readDigits cs = .ok w) :
    ∃ i, w = .int i := by
  unfold Scalar.readDigits at h
  dsimp only at h
  split_ifs at h
  cases h
  exact ⟨_, rfl⟩

theorem readWhole_eq_ok {cs : List Char} {w : Value} (h : Scalar.readWhole cs = .ok w) :
    ∃ i, w = .int i := by
  unfold Scalar.readWhole at h
  dsimp only at h
  split at h
  · exact readDigits_eq_ok h
  · cases h

theorem wholeOfDouble_eq_ok {d : Double} {w : Value} (h : Scalar.wholeOfDouble d = .ok w) :
    ∃ i, w = .int i := by
  unfold Scalar.wholeOfDouble at h
  split at h
  · cases h
  · split_ifs at h
    cases h
    exact ⟨_, rfl⟩

theorem int_eq_ok {b : Bool} {v w : Value} (h : Scalar.int b v = .ok w) : ∃ i, w = .int i := by
  unfold Scalar.int at h
  repeat' split at h
  all_goals first
    | exact readWhole_eq_ok h
    | exact wholeOfDouble_eq_ok h
    | cases h <;> exact ⟨_, rfl⟩

theorem readBool_eq_ok {cs : List Char} {w : Value} (h : Scalar.readBool cs = .ok w) :
    ∃ c, w = .bool c := by
  unfold Scalar.readBool at h
  dsimp only at h
  split_ifs at h <;> cases h <;> exact ⟨_, rfl⟩

theorem bool_eq_ok {b : Bool} {v w : Value} (h : Scalar.bool b v = .ok w) : ∃ c, w = .bool c := by
  unfold Scalar.bool at h
  repeat' split at h
  all_goals first
    | exact readBool_eq_ok h
    | cases h <;> exact ⟨_, rfl⟩

theorem float_ofDouble (b : Bool) (d : Double) :
    Scalar.float b (.ofDouble d) = .ok (.ofDouble d) := by
  cases d <;> rfl

theorem float_again {b : Bool} {v w : Value} (h : Scalar.float b v = .ok w) :
    Scalar.float b w = .ok w := by
  have whole {i : Int} (h : Scalar.doubleOfInt i = .ok w) : Scalar.float b w = .ok w := by
    unfold Scalar.doubleOfInt at h
    split at h <;> cases h
    rfl
  have text {cs : List Char} (h : Scalar.readDouble cs = .ok w) : Scalar.float b w = .ok w := by
    unfold Scalar.readDouble at h
    split at h <;> cases h
    exact float_ofDouble b _
  unfold Scalar.float at h
  repeat' split at h
  all_goals first
    | exact whole h
    | exact text h
    | cases h <;> rfl

theorem text_eq_ok {b : Bool} {v w : Value} (h : Scalar.text b v = .ok w) : ∃ s, w = .text s := by
  unfold Scalar.text at h
  repeat' split at h
  all_goals cases h <;> exact ⟨_, rfl⟩

theorem bytes_eq_ok {b : Bool} {v w : Value} (h : Scalar.bytes b v = .ok w) :
    ∃ bs, w = .bytes bs := by
  unfold Scalar.bytes at h
  repeat' split at h
  all_goals cases h <;> exact ⟨_, rfl⟩

/-- What is read from a value is read from itself. -/
theorem Rule.reading?_again {r : Rule} {b : Bool} {v w : Value}
    (h : r.reading? b v = some (.ok w)) : r.reading? b w = some (.ok w) := by
  cases r with
  | null =>
    have read : Scalar.null v = .ok w := Option.some.inj h
    unfold Scalar.null at read
    split at read <;> cases read
    rfl
  | bool =>
    obtain ⟨c, rfl⟩ := bool_eq_ok (Option.some.inj h)
    rfl
  | int =>
    obtain ⟨i, rfl⟩ := int_eq_ok (Option.some.inj h)
    rfl
  | float => exact congrArg some (float_again (Option.some.inj h))
  | text =>
    obtain ⟨s, rfl⟩ := text_eq_ok (Option.some.inj h)
    rfl
  | bytes =>
    obtain ⟨bs, rfl⟩ := bytes_eq_ok (Option.some.inj h)
    rfl
  | callable =>
    have read : Scalar.callable v = .ok w := Option.some.inj h
    unfold Scalar.callable at read
    split at read
    · next callable =>
      cases read
      exact h
    · cases read
  | _ => cases h

theorem applyPoint_again {b : Bool} {v w : Value} (h : applyPoint b v = .ok w) :
    applyPoint b w = .ok w := by
  unfold applyPoint at h
  split at h
  · cases h
    rfl
  · dsimp only at h
    split at h <;> cases h
    rfl
  · cases h

/-! ### Values that settle -/

/-- Whether a predicate is a function of its argument in the sessions of a class: what it answers
does not depend on the session, and asking it does not lead out of the class. -/
structure Caller.Steady (apply : Caller) (I : Session → Prop) (p : Value) : Prop where
  /-- The session after asking is in the class. -/
  keeps : ∀ w s, I s → I ((apply.ask p w).exec s).2
  /-- The answer is the same in all sessions of the class. -/
  answers : ∀ w s t, I s → I t →
    ((apply.ask p w).exec s).1.map Value.isTruthy = ((apply.ask p w).exec t).1.map Value.isTruthy

/-- What only reads its argument is a function of it. -/
theorem Caller.Steady.of_reading {apply : Caller} {I : Session → Prop} {p : Value}
    {read : Value → Except Fault Value} (reads : ∀ v, apply.ask p v = Run.lift (read v)) :
    apply.Steady I p where
  keeps w s hs := by rwa [reads, Run.exec_lift]
  answers w s t _ _ := by rw [reads, Run.exec_lift, Run.exec_lift]

/-- Whether a validator gives back what it has made, in all sessions of a class. -/
def Caller.Firm (apply : Caller) (I : Session → Prop) (p : Value) : Prop :=
  ∀ v w s t, I s → (apply.ask p v).exec s = (.ok w, t) →
    ∀ s', I s' → ∃ t', (apply.ask p w).exec s' = (.ok w, t')

/-- Whether a rule is no function in place of a type, and the validator that it asks, if any, gives
back what it has made. -/
def Rule.IsFirm (apply : Caller) (I : Session → Prop) : Rule → Prop
  | .call .. => False
  | .own type => ∀ b, apply.Firm I (type.validator b)
  | _ => True

/-- Whether a rule accepts a value as it is, in all sessions of a class. -/
def Settles (apply : Caller) (I : Session → Prop) (b : Bool) (r : Rule) (w : Value) : Prop :=
  ∀ s, I s → ∃ t, Passes apply b r w s w t ∧ I t

section Settling

variable {apply : Caller} {I : Session → Prop} {b : Bool}

theorem Caller.Steady.agrees {p w answer : Value} (steady : apply.Steady I p) {s t : Session}
    (hs : I s) (asked : (apply.ask p w).exec s = (.ok answer, t)) (truthy : answer.isTruthy = true)
    {s' : Session} (hs' : I s') :
    ∃ answer' t', (apply.ask p w).exec s' = (.ok answer', t') ∧ answer'.isTruthy = true ∧ I t' := by
  have same := steady.answers w s s' hs hs'
  have kept := steady.keeps w s' hs'
  rw [asked] at same
  rcases h : (apply.ask p w).exec s' with ⟨e | answer', t'⟩ <;> rw [h] at same kept
  · cases same
  · exact ⟨answer', t', rfl, (Except.ok.inj same).symm.trans truthy, kept⟩

/-- Values that settle pass one after another. -/
theorem passEach_of_settles {rs : List Rule} {ws : List Value}
    (h : List.Forall₂ (Settles apply I b) rs ws) {s : Session} (hs : I s) :
    ∃ t, PassEach apply b rs ws s ws t ∧ I t := by
  induction h generalizing s with
  | nil => exact ⟨s, .nil, hs⟩
  | cons first _ ih =>
    obtain ⟨t, passed, ht⟩ := first s hs
    obtain ⟨u, rest, hu⟩ := ih ht
    exact ⟨u, .cons passed rest, hu⟩

/-- Whether both sides of an entry settle, and the key can be one. -/
def EntrySettles (apply : Caller) (I : Session → Prop) (b : Bool) (rk rv : Rule)
    (e : Value × Value) : Prop :=
  (Settles apply I b rk e.1 ∧ e.1.isHashable = true) ∧ Settles apply I b rv e.2

theorem passEntries_of_settles {rk rv : Rule} {es : List (Value × Value)}
    (h : ∀ e ∈ es, EntrySettles apply I b rk rv e) {s : Session} (hs : I s) :
    ∃ t, PassEntries apply b rk rv es s es t ∧ I t := by
  induction es generalizing s with
  | nil => exact ⟨s, .nil, hs⟩
  | cons e es ih =>
    obtain ⟨⟨⟨key, hashable⟩, value⟩, others⟩ := List.forall_mem_cons.mp h
    obtain ⟨t, first, ht⟩ := key s hs
    obtain ⟨u, second, hu⟩ := value t ht
    obtain ⟨x, rest, hx⟩ := ih others hu
    exact ⟨x, .cons first second hashable rest, hx⟩

theorem settles_of_replicate {r : Rule} {k : Nat} {ws : List Value}
    (h : List.Forall₂ (Settles apply I b) (.replicate k r) ws) :
    k = ws.length ∧ ∀ w ∈ ws, Settles apply I b r w := by
  induction k generalizing ws with
  | zero =>
    cases h
    exact ⟨rfl, fun _ hw => absurd hw List.not_mem_nil⟩
  | succ k ih =>
    cases h with
    | cons first rest =>
      obtain ⟨length, others⟩ := ih rest
      exact ⟨congrArg (· + 1) length, List.forall_mem_cons.mpr ⟨first, others⟩⟩

theorem replicate_settles {r : Rule} {ws : List Value} (h : ∀ w ∈ ws, Settles apply I b r w) :
    List.Forall₂ (Settles apply I b) (.replicate ws.length r) ws := by
  induction ws with
  | nil => exact .nil
  | cons w ws ih =>
    obtain ⟨first, rest⟩ := List.forall_mem_cons.mp h
    exact .cons first (ih rest)

namespace Settles

theorem optional {r : Rule} {w : Value} (h : Settles apply I b r w) :
    Settles apply I b (.optional r) w := by
  intro s hs
  by_cases null : w = .null
  · subst null
    exact ⟨s, .nothing, hs⟩
  · obtain ⟨t, passed, ht⟩ := h s hs
    exact ⟨t, .present null passed, ht⟩

theorem list {r : Rule} {least most : Option Nat} {ws : List Value}
    (few : exceeds ws.length most = none) (enough : ¬ ws.length < least.getD 0)
    (h : ∀ w ∈ ws, Settles apply I b r w) :
    Settles apply I b (.list r least most) (.list .fresh ws) := by
  intro s hs
  obtain ⟨t, each, ht⟩ := passEach_of_settles (replicate_settles h) hs
  exact ⟨t, .list (by cases b <;> rfl) few enough each, ht⟩

theorem set {r : Rule} {ws : List Value} (h : ∀ w ∈ ws, Settles apply I b r w)
    (hashable : ∀ w ∈ ws, w.isHashable = true) :
    Settles apply I b (.set r) (.set .fresh (distinct ws)) := by
  intro s hs
  have members : ∀ w ∈ distinct ws, Settles apply I b r w :=
    fun w hw => h w (mem_of_mem_distinct hw)
  obtain ⟨t, each, ht⟩ := passEach_of_settles (replicate_settles members) hs
  have passed := Passes.set (v := .set .fresh (distinct ws)) (by cases b <;> rfl) each
    fun w hw => hashable w (mem_of_mem_distinct hw)
  rw [distinct_distinct] at passed
  exact ⟨t, passed, ht⟩

theorem frozenset {r : Rule} {ws : List Value} (h : ∀ w ∈ ws, Settles apply I b r w)
    (hashable : ∀ w ∈ ws, w.isHashable = true) :
    Settles apply I b (.frozenset r) (.frozenset .fresh (distinct ws)) := by
  intro s hs
  have members : ∀ w ∈ distinct ws, Settles apply I b r w :=
    fun w hw => h w (mem_of_mem_distinct hw)
  obtain ⟨t, each, ht⟩ := passEach_of_settles (replicate_settles members) hs
  have passed := Passes.frozenset (v := .frozenset .fresh (distinct ws)) (by cases b <;> rfl) each
    fun w hw => hashable w (mem_of_mem_distinct hw)
  rw [distinct_distinct] at passed
  exact ⟨t, passed, ht⟩

theorem variadic {r : Rule} {ws : List Value} (h : ∀ w ∈ ws, Settles apply I b r w) :
    Settles apply I b (.variadic r) (.tuple .fresh ws) := by
  intro s hs
  obtain ⟨t, each, ht⟩ := passEach_of_settles (replicate_settles h) hs
  exact ⟨t, .variadic (by cases b <;> rfl) each, ht⟩

theorem fixed {rs : List Rule} {ws : List Value} (h : List.Forall₂ (Settles apply I b) rs ws) :
    Settles apply I b (.fixed rs) (.tuple .fresh ws) := by
  intro s hs
  obtain ⟨t, each, ht⟩ := passEach_of_settles h hs
  exact ⟨t, .fixed (by cases b <;> rfl) each, ht⟩

theorem dict {rk rv : Rule} {fs : List (Value × Value)}
    (h : ∀ e ∈ fs, EntrySettles apply I b rk rv e) :
    Settles apply I b (.dict rk rv) (.dict .fresh (putEntries fs)) := by
  intro s hs
  have entries : ∀ e ∈ putEntries fs, EntrySettles apply I b rk rv e :=
    mem_of_mem_putEntries (P := fun k => Settles apply I b rk k ∧ k.isHashable = true)
      (Q := Settles apply I b rv) h
  obtain ⟨t, each, ht⟩ := passEntries_of_settles entries hs
  have passed := Passes.dict (l := .fresh) each
  rw [putEntries_putEntries] at passed
  exact ⟨t, passed, ht⟩

theorem limited {r : Rule} {ls : List Limit} {w : Value} (h : Settles apply I b r w)
    (quiet : firstComplaint? ls w = none) : Settles apply I b (.limited r ls) w := by
  intro s hs
  obtain ⟨t, passed, ht⟩ := h s hs
  exact ⟨t, .limited passed quiet, ht⟩

/-- A predicate that has agreed to a value agrees to it again. -/
theorem after {r : Rule} {p m w answer : Value} (h : Settles apply I b r w)
    (steady : apply.Steady I p) {s t : Session} (hs : I s)
    (asked : (apply.ask p w).exec s = (.ok answer, t)) (truthy : answer.isTruthy = true) :
    Settles apply I b (.after r p m) w := by
  intro s' hs'
  obtain ⟨t', passed, ht'⟩ := h s' hs'
  obtain ⟨answer', u, asked', truthy', hu⟩ := steady.agrees hs asked truthy ht'
  exact ⟨u, .after passed asked' truthy', hu⟩

theorem own {type v w : Value} (steady : apply.Steady I (type.validator b))
    (firm : apply.Firm I (type.validator b)) {s t : Session} (hs : I s)
    (answered : (apply.ask (type.validator b) v).exec s = (.ok w, t)) :
    Settles apply I b (.own type) w := by
  intro s' hs'
  obtain ⟨t', again⟩ := firm v w s t hs answered s' hs'
  have kept := steady.keeps w s' hs'
  rw [again] at kept
  exact ⟨t', .own again, kept⟩

end Settles

mutual

/-- What passes a rule settles: the rule accepts it as it is. By recursion on how it passes. -/
theorem Passes.settles {r : Rule} {v w : Value} {s t : Session} : Passes apply b r v s w t →
    r.Each (Rule.IsFirm apply I) → r.AsksOnly (apply.Steady I) → I s → I t ∧ Settles apply I b r w
  | .any, _, _, hs => ⟨hs, fun s hs => ⟨s, .any, hs⟩⟩
  | .read h, _, _, hs => ⟨hs, fun s hs => ⟨s, .read (Rule.reading?_again h), hs⟩⟩
  | .point h, _, _, hs => ⟨hs, fun s hs => ⟨s, .point (applyPoint_again h), hs⟩⟩
  | .nothing, _, _, hs => ⟨hs, fun s hs => ⟨s, .nothing, hs⟩⟩
  | .present _ inner, firm, steady, hs => by
    obtain ⟨ht, settles⟩ := inner.settles firm.2 steady hs
    exact ⟨ht, settles.optional⟩
  | .list (r := r) found few enough each, firm, steady, hs => by
    obtain ⟨ht, settle⟩ := each.settle (.replicate firm.2 _) (.replicate (r := r) steady _) hs
    obtain ⟨length, settles⟩ := settles_of_replicate settle
    rw [length] at few enough
    exact ⟨ht, .list few enough settles⟩
  | .set (r := r) found each hashable, firm, steady, hs => by
    obtain ⟨ht, settle⟩ := each.settle (.replicate firm.2 _) (.replicate (r := r) steady _) hs
    exact ⟨ht, .set (settles_of_replicate settle).2 hashable⟩
  | .frozenset (r := r) found each hashable, firm, steady, hs => by
    obtain ⟨ht, settle⟩ := each.settle (.replicate firm.2 _) (.replicate (r := r) steady _) hs
    exact ⟨ht, .frozenset (settles_of_replicate settle).2 hashable⟩
  | .variadic (r := r) found each, firm, steady, hs => by
    obtain ⟨ht, settle⟩ := each.settle (.replicate firm.2 _) (.replicate (r := r) steady _) hs
    exact ⟨ht, .variadic (settles_of_replicate settle).2⟩
  | .fixed found each, firm, steady, hs => by
    obtain ⟨ht, settle⟩ := each.settle firm.2 steady hs
    exact ⟨ht, .fixed settle⟩
  | .dict each, firm, steady, hs => by
    obtain ⟨ht, settle⟩ := each.settle firm.2.1 firm.2.2 steady.1 steady.2 hs
    exact ⟨ht, .dict settle⟩
  | .limited (r := r) inner quiet, firm, steady, hs => by
    obtain ⟨ht, settles⟩ := inner.settles firm.2 steady hs
    exact ⟨ht, settles.limited quiet⟩
  | .after (w := w) inner asked truthy, firm, steady, hs => by
    obtain ⟨ht, settles⟩ := inner.settles firm.2 steady.1 hs
    have kept := steady.2.keeps w _ ht
    rw [asked] at kept
    exact ⟨kept, settles.after steady.2 ht asked truthy⟩
  | .call _ _, firm, _, _ => firm.elim
  | .own (v := v) answered, firm, steady, hs => by
    have kept := (steady b).keeps v _ hs
    rw [answered] at kept
    exact ⟨kept, .own (steady b) (firm b) hs answered⟩

theorem PassEach.settle {rs : List Rule} {vs ws : List Value} {s t : Session} :
    PassEach apply b rs vs s ws t → EachOf (Rule.IsFirm apply I) rs →
    AskOnly (apply.Steady I) rs → I s → I t ∧ List.Forall₂ (Settles apply I b) rs ws
  | .nil, _, _, hs => ⟨hs, .nil⟩
  | .cons first rest, firm, steady, hs => by
    obtain ⟨ht, settles⟩ := first.settles firm.1 steady.1 hs
    obtain ⟨hu, others⟩ := rest.settle firm.2 steady.2 ht
    exact ⟨hu, .cons settles others⟩

theorem PassEntries.settle {rk rv : Rule} {es fs : List (Value × Value)} {s t : Session} :
    PassEntries apply b rk rv es s fs t → rk.Each (Rule.IsFirm apply I) →
    rv.Each (Rule.IsFirm apply I) → rk.AsksOnly (apply.Steady I) →
    rv.AsksOnly (apply.Steady I) → I s → I t ∧ ∀ e ∈ fs, EntrySettles apply I b rk rv e
  | .nil, _, _, _, _, hs => ⟨hs, fun _ he => absurd he List.not_mem_nil⟩
  | .cons first second hashable rest, firmKey, firmValue, steadyKey, steadyValue, hs => by
    obtain ⟨ht, key⟩ := first.settles firmKey steadyKey hs
    obtain ⟨hu, value⟩ := second.settles firmValue steadyValue ht
    obtain ⟨hx, others⟩ := rest.settle firmKey firmValue steadyKey steadyValue hu
    exact ⟨hx, List.forall_mem_cons.mpr ⟨⟨⟨key, hashable⟩, value⟩, others⟩⟩

end

end Settling

end CallContract
