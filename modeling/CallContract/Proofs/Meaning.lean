import CallContract.Proofs.History
import CallContract.Proofs.Passing
import CallContract.Proofs.Translation

/-!
# What schemas mean

The meaning of a schema is given by recursion on the schema, without annotations and rules
(`Accepts`): which values it accepts, and what it makes of them. A check by the schema, which goes
by the rule that the schema is translated to, accepts the same values and makes the same of them
(`validate_iff_accepts`).

Predicates are user code and may change the session. Therefore the meaning relates the session
before a check to the one after it, and says in which order the parts of a value are looked at.
-/

namespace CallContract

/-! ### The meaning of schemas -/

/-- Whether a list of `k` items has the length of an array schema: the exact one if there is one,
or else one within the bounds that there are. -/
def LengthFits (length least most : Option Numeral) (k : Nat) : Prop :=
  match length with
  | some n => (Numeral.whole k).same n = true
  | none => (∀ n, least = some n → (Numeral.whole k).less n = false) ∧
      ∀ n, most = some n → n.less (.whole k) = false

mutual

/-- `Accepts apply b S v s w t`: the schema `S` accepts the value `v`, strictly if `b` is set, and
makes `w` of it; the session was `s` before and is `t` after that. -/
inductive Accepts (apply : Caller) (b : Bool) :
    Schema → Value → Session → Value → Session → Prop where
  /-- Any value is accepted as it is. -/
  | any {l : Label} {v : Value} {s : Session} : Accepts apply b (.any l) v s v s
  /-- A type accepts what its own rule accepts. -/
  | primitive {l : Label} {type v w : Value} {s t : Session} {r : Rule} : type.rule = .ok r →
    (r.apply apply b v).exec s = (.ok (.ok w), t) → Accepts apply b (.primitive l type) v s w t
  /-- What can be called is accepted as it is. -/
  | function {l : Label} {args returns : Schema} {v : Value} {s : Session} : v.isCallable = true →
    Accepts apply b (.function l args returns) v s v s
  /-- The predicate is asked about what the base makes of the value. -/
  | refined {l : Label} {base : Schema} {p m v w answer : Value} {s t u : Session} :
    Accepts apply b base v s w t → (apply.ask p w).exec t = (.ok answer, u) →
    answer.isTruthy = true → Accepts apply b (.refined l base p m) v s w u
  /-- Each element is accepted by the item in its place. -/
  | tuple {l : Label} {items : List Schema} {v : Value} {vs ws : List Value} {s t : Session} :
    tupleItems b v = some vs → AcceptsEach apply b items vs s ws t →
    Accepts apply b (.tuple l items) v s (.tuple .fresh ws) t
  /-- The length fits, and all items are accepted by the element. -/
  | array {l : Label} {element : Schema} {length least most : Option Numeral} {v : Value}
    {vs ws : List Value} {s t : Session} : listItems b v = some vs →
    LengthFits length least most vs.length →
    AcceptsEach apply b (.replicate vs.length element) vs s ws t →
    Accepts apply b (.array l element length least most) v s (.list .fresh ws) t

/-- There are as many values as schemas, and each schema accepts the value in its place, one after
another. -/
inductive AcceptsEach (apply : Caller) (b : Bool) :
    List Schema → List Value → Session → List Value → Session → Prop where
  /-- No values. -/
  | nil {s : Session} : AcceptsEach apply b [] [] s [] s
  /-- A first value, and the others. -/
  | cons {S : Schema} {Ss : List Schema} {v w : Value} {vs ws : List Value} {s t u : Session} :
    Accepts apply b S v s w t → AcceptsEach apply b Ss vs t ws u →
    AcceptsEach apply b (S :: Ss) (v :: vs) s (w :: ws) u

end

mutual

/-- A schema and all schemas that it is made of, as far as checks look at them. -/
def Schema.parts : Schema → List Schema
  | .refined l base p m => .refined l base p m :: base.parts
  | .tuple l items => .tuple l items :: partsOf items
  | .array l element n lo hi => .array l element n lo hi :: element.parts
  | S => [S]

/-- The parts of the schemas of a list. -/
def partsOf : List Schema → List Schema
  | [] => []
  | S :: Ss => S.parts ++ partsOf Ss

end

/-- Whether each part of a schema has an adapter, and no name of a type is unknown. -/
def Schema.Known (S : Schema) : Prop := ∀ T ∈ S.parts, ∃ r, T.rule = .ok r ∧ r ≠ .unresolved

/-! ### Lengths -/

namespace Numeral

variable {n : Numeral} {c : Nat}

theorem whole?_of_count (h : n.count = .ok c) : n.whole? = some (c : Int) := by
  unfold count at h
  split at h
  · next i whole =>
    split at h
    · next range =>
      obtain rfl := Except.ok.inj h
      rw [whole, Int.toNat_of_nonneg range.1]
    · cases h
  · cases h

/-- A bound that counts items is compared by its count. -/
theorem compare?_of_count (h : n.count = .ok c) (k : Nat) :
    (whole k).compare? n = some (compare (k : Int) c) ∧
      n.compare? (whole k) = some (compare (c : Int) k) := by
  have whole := whole?_of_count h
  cases n with
  | real d => cases whole
  | flag b =>
    obtain whole := Option.some.inj whole
    simp only [compare?, whole?, Option.getD_some, whole, and_self]
  | whole i =>
    obtain rfl := Option.some.inj whole
    exact ⟨rfl, rfl⟩

theorem whole_same_of_count (h : n.count = .ok c) (k : Nat) : (whole k).same n = true ↔ k = c := by
  rw [same, (compare?_of_count h k).1, beq_iff_eq, Option.some.injEq, Int.compare_eq_eq,
    Int.natCast_inj]

theorem whole_less_of_count (h : n.count = .ok c) (k : Nat) : (whole k).less n = true ↔ k < c := by
  rw [less, (compare?_of_count h k).1, beq_iff_eq, Option.some.injEq, Int.compare_eq_lt,
    Int.ofNat_lt]

theorem less_whole_of_count (h : n.count = .ok c) (k : Nat) : n.less (whole k) = true ↔ c < k := by
  rw [less, (compare?_of_count h k).2, beq_iff_eq, Option.some.injEq, Int.compare_eq_lt,
    Int.ofNat_lt]

end Numeral

theorem boundCount_eq_ok {n : Option Numeral} {c : Option Nat} (h : boundCount n = .ok c) :
    (n = none ∧ c = none) ∨ ∃ m k, n = some m ∧ c = some k ∧ m.count = .ok k := by
  cases n with
  | none => exact .inl ⟨rfl, (Except.ok.inj h).symm⟩
  | some m =>
    cases hm : m.count with
    | error e =>
      rw [boundCount, hm] at h
      cases h
    | ok k =>
      rw [boundCount, hm] at h
      exact .inr ⟨m, k, rfl, (Except.ok.inj h).symm, hm⟩

/-- The counts of the bounds of an array schema allow the lengths that fit. -/
theorem lengthFits_iff {n lo hi : Option Numeral} {least most : Option Nat}
    (hleast : boundCount (lengthLimits n lo hi).1 = .ok least)
    (hmost : boundCount (lengthLimits n lo hi).2 = .ok most) (k : Nat) :
    LengthFits n lo hi k ↔ exceeds k most = none ∧ ¬ k < least.getD 0 := by
  cases n with
  | some n =>
    -- An exact length is both bounds.
    obtain ⟨⟨⟩, -⟩ | ⟨m, c, ⟨⟩, rfl, hc⟩ := boundCount_eq_ok hleast
    obtain ⟨⟨⟩, -⟩ | ⟨m', c', ⟨⟩, rfl, hc'⟩ := boundCount_eq_ok hmost
    obtain rfl := Except.ok.inj (hc.symm.trans hc')
    rw [LengthFits, Numeral.whole_same_of_count hc]
    simp only [exceeds, Option.filter_eq_none_iff, Option.getD_some]
    simp
    omega
  | none =>
    have below : (∀ m, lo = some m → (Numeral.whole k).less m = false) ↔ ¬ k < least.getD 0 := by
      obtain ⟨hlo, rfl⟩ | ⟨m, c, hlo, rfl, hc⟩ := boundCount_eq_ok hleast
      · simp [show lo = none from hlo]
      · have less := Numeral.whole_less_of_count hc k
        simp [show lo = some m from hlo, ← Bool.not_eq_true, less]
    have above : (∀ m, hi = some m → m.less (.whole k) = false) ↔ exceeds k most = none := by
      obtain ⟨hhi, rfl⟩ | ⟨m, c, hhi, rfl, hc⟩ := boundCount_eq_ok hmost
      · simp [show hi = none from hhi, exceeds]
      · have less := Numeral.less_whole_of_count hc k
        simp [show hi = some m from hhi, exceeds, ← Bool.not_eq_true, less]
    rw [LengthFits, below, above, and_comm]

/-! ### Parts of a value -/

section Parts

variable {apply : Caller} {b : Bool}

/-- Whether a check by a rule comes to the meaning of a schema. -/
def Rule.Means (apply : Caller) (b : Bool) (r : Rule) (S : Schema) : Prop :=
  ∀ v s w t, (r.apply apply b v).exec s = (.ok (.ok w), t) ↔ Accepts apply b S v s w t

/-- What passes the rule of a schema is what the schema accepts. -/
theorem Rule.Means.passes_iff {r : Rule} {S : Schema} (means : r.Means apply b S)
    (asks : r.AsksOnly apply.Tells) {v w : Value} {s t : Session} :
    Passes apply b r v s w t ↔ Accepts apply b S v s w t :=
  (Rule.passes_iff asks).symm.trans (means v s w t)

/-- Each value passes the rule in its place if the schema in its place accepts it. -/
theorem passEach_iff {rs : List Rule} (asks : AskOnly apply.Tells rs) {Ss : List Schema}
    (means : List.Forall₂ (Rule.Means apply b) rs Ss) {vs ws : List Value} {s t : Session} :
    PassEach apply b rs vs s ws t ↔ AcceptsEach apply b Ss vs s ws t := by
  induction means generalizing vs s ws with
  | nil =>
    constructor
    · rintro ⟨⟩
      exact .nil
    · rintro ⟨⟩
      exact .nil
  | cons first _ ih =>
    constructor
    · rintro (_ | ⟨passed, rest⟩)
      exact .cons ((first.passes_iff asks.1).mp passed) ((ih asks.2).mp rest)
    · rintro (_ | ⟨accepted, rest⟩)
      exact .cons ((first.passes_iff asks.1).mpr accepted) ((ih asks.2).mpr rest)

theorem forall₂_replicate {α β : Type} {R : α → β → Prop} {x : α} {y : β} (h : R x y) (k : Nat) :
    List.Forall₂ R (.replicate k x) (.replicate k y) := by
  induction k with
  | zero => exact .nil
  | succ k ih => exact .cons h ih

/-- In lists that are related item by item, what one has at an index the other has a partner for. -/
theorem getElem?_of_forall₂ {α β : Type} {R : α → β → Prop} {xs : List α} {ys : List β}
    (h : List.Forall₂ R xs ys) {i : Nat} {x : α} (hx : xs[i]? = some x) :
    ∃ y, ys[i]? = some y ∧ R x y := by
  induction h generalizing i with
  | nil => cases hx
  | cons first _ ih =>
    cases i with
    | zero =>
      obtain rfl := Option.some.inj hx
      exact ⟨_, rfl, first⟩
    | succ i => exact ih hx

/-! ### Schemas and their rules -/

namespace Rule.Means

variable {S : Schema} {r : Rule} {l : Label}

theorem any : Rule.any.Means apply b (.any l) := by
  intro v s w t
  constructor
  · intro h
    cases h
    exact .any
  · rintro ⟨⟩
    rfl

theorem primitive {type : Value} (h : type.rule = .ok r) : r.Means apply b (.primitive l type) := by
  intro v s w t
  constructor
  · exact fun accepted => .primitive h accepted
  · intro accepted
    cases accepted with
    | primitive hr checked =>
      obtain rfl := Except.ok.inj (h.symm.trans hr)
      exact checked

theorem function {args returns : Schema} :
    Rule.callable.Means apply b (.function l args returns) := by
  intro v s w t
  rw [Rule.apply, Scalar.callable]
  constructor
  · intro h
    split at h
    · next callable =>
      cases h
      exact .function callable
    · cases h
  · intro accepted
    cases accepted with
    | function callable =>
      rw [if_pos callable]
      rfl

theorem refined (asks : r.AsksOnly apply.Tells) (means : r.Means apply b S) {p : Value}
    (tells : apply.Tells p) (m : Value) :
    (Rule.after r p m).Means apply b (.refined l S p m) := by
  intro v s w t
  have asksAll : (Rule.after r p m).AsksOnly apply.Tells := ⟨asks, tells⟩
  rw [Rule.passes_iff asksAll]
  constructor
  · intro h
    cases h with
    | read h => cases h
    | after inner asked truthy => exact .refined ((means.passes_iff asks).mp inner) asked truthy
  · intro accepted
    cases accepted with
    | refined inner asked truthy => exact .after ((means.passes_iff asks).mpr inner) asked truthy

theorem array (asks : r.AsksOnly apply.Tells) (means : r.Means apply b S) {n lo hi : Option Numeral}
    {least most : Option Nat} (hleast : boundCount (lengthLimits n lo hi).1 = .ok least)
    (hmost : boundCount (lengthLimits n lo hi).2 = .ok most) :
    (Rule.list r least most).Means apply b (.array l S n lo hi) := by
  intro v s w t
  have fits := lengthFits_iff hleast hmost
  have each (vs ws : List Value) : PassEach apply b (.replicate vs.length r) vs s ws t ↔
      AcceptsEach apply b (.replicate vs.length S) vs s ws t :=
    passEach_iff (.replicate asks _) (forall₂_replicate means _)
  have asksAll : (Rule.list r least most).AsksOnly apply.Tells := asks
  rw [Rule.passes_iff asksAll]
  constructor
  · intro h
    cases h with
    | read h => cases h
    | list found few enough passed =>
      exact .array found ((fits _).mpr ⟨few, enough⟩) ((each ..).mp passed)
  · intro accepted
    cases accepted with
    | array found length passed =>
      obtain ⟨few, enough⟩ := (fits _).mp length
      exact .list found few enough ((each ..).mpr passed)

theorem tuple {rs : List Rule} (asks : AskOnly apply.Tells rs) {Ss : List Schema}
    (means : List.Forall₂ (Rule.Means apply b) rs Ss) :
    (Rule.fixed rs).Means apply b (.tuple l Ss) := by
  intro v s w t
  have asksAll : (Rule.fixed rs).AsksOnly apply.Tells := asks
  rw [Rule.passes_iff asksAll]
  constructor
  · intro h
    cases h with
    | read h => cases h
    | fixed found passed => exact .tuple found ((passEach_iff asks means).mp passed)
  · intro accepted
    cases accepted with
    | tuple found each => exact .fixed found ((passEach_iff asks means).mpr each)

end Rule.Means

end Parts

section Agreement

variable {apply : Caller} {b : Bool}

theorem Schema.mem_parts (S : Schema) : S ∈ S.parts := by
  cases S <;> simp [Schema.parts]

theorem Schema.Known.of_parts {S T : Schema} (known : S.Known)
    (parts : ∀ U ∈ T.parts, U ∈ S.parts) : T.Known := fun U hU => known U (parts U hU)

/-- A known schema has a translation. -/
theorem Schema.Known.translation {S : Schema} (known : S.Known) : ∃ r, S.translation = .ok r := by
  obtain ⟨r, rule, resolved⟩ := known S S.mem_parts
  exact ⟨r, Schema.translation_of_rule rule resolved⟩

mutual

/-- The rule that a schema is translated to comes to the meaning of the schema. By recursion on the
schema: the rule is made from those of the parts. -/
theorem Schema.translation_means : ∀ (S : Schema) {r : Rule}, S.Known → S.translation = .ok r →
    r.AsksOnly apply.Tells → r.Means apply b S
  | .bare .., _, _, h, _ => by cases h
  | .foreign _, _, _, h, _ => by cases h
  | .any l, _, _, h, _ => by
    cases h
    exact .any
  | .function l args returns, _, _, h, _ => by
    cases h
    exact .function
  | .primitive l type, _, _, h, _ => .primitive (Schema.translation_primitive h)
  | .refined l base p m, r, known, h, asks => by
    have knownBase : base.Known := known.of_parts fun U hU => by simp [Schema.parts, hU]
    obtain ⟨r₀, hbase, rfl⟩ := Schema.translation_refined h
    exact .refined asks.1 (translation_means base knownBase hbase asks.1) asks.2 m
  | .array l element n lo hi, r, known, h, asks => by
    have knownElement : element.Known := known.of_parts fun U hU => by simp [Schema.parts, hU]
    obtain ⟨r₀, least, most, hleast, hmost, rfl, helement | ⟨l, l', types, rfl, -⟩⟩ :=
      Schema.translation_array h
    · have asks : r₀.AsksOnly apply.Tells := asks
      exact .array asks (translation_means element knownElement helement asks) hleast hmost
    · -- A bare tuple of types has no rule.
      obtain ⟨r₁, helement⟩ := knownElement.translation
      cases Schema.translation_primitive helement
  | .tuple l items, r, known, h, asks => by
    obtain ⟨rs, hitems, rfl⟩ := Schema.translation_tuple h
    exact .tuple asks (translations_mean items (fun U hU => known U (by simp [Schema.parts, hU]))
      hitems asks)

/-- The rules of the items of a tuple schema come to the meanings of these. -/
theorem Schema.translations_mean : ∀ (Ss : List Schema) {rs : List Rule},
    (∀ T ∈ partsOf Ss, ∃ r, T.rule = .ok r ∧ r ≠ .unresolved) →
    List.Forall₂ (fun S r => Schema.translation S = .ok r) Ss rs → AskOnly apply.Tells rs →
    List.Forall₂ (Rule.Means apply b) rs Ss
  | [], _, _, .nil, _ => .nil
  | S :: Ss, _, known, .cons h translated, asks => by
    have first : S.Known := fun T hT => known T (by simp [partsOf, hT])
    have others : ∀ T ∈ partsOf Ss, ∃ r, T.rule = .ok r ∧ r ≠ .unresolved := fun T hT =>
      known T (by simp [partsOf, hT])
    exact .cons (translation_means S first h asks.1) (translations_mean Ss others translated asks.2)

end

/-- Whether the adapter that a store has for a schema, if any, checks as the rule of the schema
does. -/
def AdapterStore.Serves (apply : Caller) (S : Schema) (store : AdapterStore) : Prop :=
  ∀ a rest, take? S store = some (a, rest) →
    ∃ r, S.rule = .ok r ∧ ∀ b v, a.rule.apply apply b v = r.apply apply b v

theorem AdapterStore.serves_nil (apply : Caller) (S : Schema) : Serves apply S [] :=
  fun _ _ taken => by cases taken

/-- A kept store serves every schema in use. -/
theorem AdapterStore.Kept.serves {C : Stock} (calls : C.CallsAlike apply) {store : AdapterStore}
    (kept : Kept C store) {S : Schema} (held : C.Holds S) : Serves apply S store := by
  intro a rest taken
  obtain ⟨r, rule, alike⟩ := kept.rule_of_taken held taken
  exact ⟨r, rule, fun b v => alike.apply_eq calls b v⟩

/-- The adapter of a schema that has a rule. -/
theorem Schema.exec_adapter_of_serves {S : Schema} {r : Rule} (rule : S.rule = .ok r) {s : Session}
    (serves : AdapterStore.Serves apply S s.adapters) :
    ∃ a t, S.adapter.exec s = (.ok a, t) ∧ ∀ b v, a.rule.apply apply b v = r.apply apply b v := by
  cases hashable : S.isHashable with
  | false =>
    rw [exec_adapter_of_unhashable hashable, exec_newAdapter, rule]
    exact ⟨_, _, rfl, fun _ _ => rfl⟩
  | true =>
    cases taken : AdapterStore.take? S s.adapters with
    | some found =>
      obtain ⟨r', hr', alike⟩ := serves _ _ taken
      obtain rfl := Except.ok.inj (rule.symm.trans hr')
      exact ⟨_, _, exec_adapter_of_taken hashable taken, alike⟩
    | none =>
      rw [exec_adapter_of_missing hashable taken, rule]
      exact ⟨_, _, rfl, fun _ _ => rfl⟩

/-- Where the store serves a schema, an adapter for it checks as its rule does. -/
theorem Schema.rule_of_adapter {S : Schema} {s t : Session} {a : Adapter}
    (serves : AdapterStore.Serves apply S s.adapters) (h : S.adapter.exec s = (.ok a, t)) :
    ∃ r, S.rule = .ok r ∧ ∀ b v, a.rule.apply apply b v = r.apply apply b v := by
  cases rule : S.rule with
  | ok r =>
    obtain ⟨a', t', found, alike⟩ := Schema.exec_adapter_of_serves rule serves
    rw [found] at h
    cases h
    exact ⟨r, rfl, alike⟩
  | error e =>
    cases hashable : S.isHashable with
    | false =>
      rw [exec_adapter_of_unhashable hashable, exec_newAdapter, rule] at h
      cases h
    | true =>
      cases taken : AdapterStore.take? S s.adapters with
      | some found =>
        obtain ⟨r, rule', -⟩ := serves _ _ taken
        cases rule.symm.trans rule'
      | none =>
        rw [exec_adapter_of_missing hashable taken, rule] at h
        cases h

/-- A check by a schema gives a value exactly if the value that is checked passes the rule of the
schema. -/
theorem validate_iff_passes {schema : Value} {strict : Option Bool}
    (tells : Gives (Rule.AsksOnly apply.Tells) (promote schema).rule) {s : Session}
    (serves : AdapterStore.Serves apply (promote schema) s.adapters) {v w : Value}
    {t : Session} : (validate apply schema v strict).exec s = (.ok w, t) ↔
      ∃ a r b u x, (promote schema).adapter.exec s = (.ok a, u) ∧ (promote schema).rule = .ok r ∧
        (strictness strict).exec u = (.ok b, x) ∧ Passes apply b r v x w t := by
  constructor
  · intro h
    obtain ⟨a, u, found, h⟩ := Run.exec_bind_eq_ok.mp h
    obtain ⟨b, x, strictly, h⟩ := Run.exec_bind_eq_ok.mp h
    obtain ⟨r, rule, alike⟩ := Schema.rule_of_adapter serves found
    obtain ⟨verdict, y, checked, h⟩ := Run.exec_bind_eq_ok.mp h
    cases verdict with
    | error issues => cases h
    | ok w' =>
      cases h
      rw [alike] at checked
      exact ⟨a, r, b, u, x, found, rule, strictly, (Rule.passes_iff (tells r rule)).mp checked⟩
  · rintro ⟨a, r, b, u, x, found, rule, strictly, passed⟩
    obtain ⟨r', rule', alike⟩ := Schema.rule_of_adapter serves found
    obtain rfl := Except.ok.inj (rule.symm.trans rule')
    refine Run.exec_bind_eq_ok.mpr ⟨a, u, found, ?_⟩
    refine Run.exec_bind_eq_ok.mpr ⟨b, x, strictly, ?_⟩
    rw [alike]
    exact Run.exec_bind_eq_ok.mpr ⟨.ok w, t, (Rule.passes_iff (tells r rule)).mpr passed, rfl⟩

/-- **Checks go by the meaning.** A check by a schema gives a value exactly if the schema accepts
the value that is checked and makes the other of it. -/
theorem validate_iff_accepts {S : Schema} (known : S.Known)
    (tells : Gives (Rule.AsksOnly apply.Tells) S.rule) {s : Session}
    (serves : AdapterStore.Serves apply S s.adapters) (v w : Value) (t : Session) :
    (validate apply (.schema S) v (some b)).exec s = (.ok w, t) ↔
      Accepts apply b S v (S.adapter.exec s).2 w t := by
  obtain ⟨r, rule, resolved⟩ := known S S.mem_parts
  obtain ⟨a, u, found, alike⟩ := Schema.exec_adapter_of_serves rule serves
  have means : r.Means apply b S :=
    Schema.translation_means S known (Schema.translation_of_rule rule resolved) (tells r rule)
  rw [found, ← means, validate, promote_schema, Run.exec_bind_of_ok found, strictness, pure_bind,
    alike]
  constructor
  · intro h
    obtain ⟨verdict, t', checked, h⟩ := Run.exec_bind_eq_ok.mp h
    cases verdict with
    | error issues => cases h
    | ok x =>
      cases h
      exact checked
  · exact fun checked => Run.exec_bind_of_ok checked

end Agreement

theorem Value.len_ne_unfit (v : Value) (issues : List Issue) : v.len ≠ .error (.unfit issues) := by
  unfold Value.len
  split
  · nofun
  · nofun
  · split <;> nofun

theorem len_tells (depth : Nat) : (callWithin depth).Tells (.function (.builtin .len)) := by
  intro args kw s issues t h
  cases depth with
  | zero => cases h
  | succ depth =>
    rw [callWithin_succ, Value.callBy, Function.callBy] at h
    unfold Builtin.call at h
    split at h <;> first
      | contradiction
      | cases h
      | skip
    next v _ =>
      rw [Run.exec_lift] at h
      exact absurd (Prod.mk.inj h).1 (v.len_ne_unfit issues)

/-- Pairs of a list of texts that are not empty, with one at least, and of something to call. -/
def textsAndCallback : Schema :=
  .tuple .fresh [.array .fresh nonemptyText none (some (.whole 1)) none,
    .function .fresh (.any .fresh) (.any .fresh)]

theorem textsAndCallback_known : textsAndCallback.Known := by
  intro T hT
  simp only [textsAndCallback, nonemptyText, Schema.parts, partsOf, List.cons_append,
    List.nil_append, List.append_nil, List.mem_cons, List.not_mem_nil, or_false] at hT
  rcases hT with rfl | rfl | rfl | rfl | rfl <;> exact ⟨_, rfl, Rule.noConfusion⟩

theorem validate_iff_accepts_textsAndCallback :
    let v : Value := .tuple .fresh [.list .fresh [.text "a", .text "b"], .function (.builtin .len)]
    let checked := (validate call (.schema textsAndCallback) v (some true)).exec Session.start
    checked.1 = .ok v ∧ Accepts call true textsAndCallback v
      (textsAndCallback.adapter.exec Session.start).2 v checked.2 := by
  intro v checked
  have served : AdapterStore.Serves call textsAndCallback Session.start.adapters :=
    AdapterStore.serves_nil _ _
  have tells : Gives (Rule.AsksOnly call.Tells) textsAndCallback.rule := by
    rintro _ ⟨⟩
    exact ⟨⟨trivial, len_tells callDepth⟩, trivial, trivial⟩
  have result : checked.1 = .ok v := rfl
  exact ⟨result, (validate_iff_accepts textsAndCallback_known tells served v v _).mp
    (Prod.ext result rfl)⟩

/-- Lists of something whose name is not known. -/
def undefinedItems : Schema := .array .fresh (.primitive .fresh (.text "T")) none none none

/-- Each part of a schema with an unknown name has an adapter. But a check by it ends with a fault,
also where the name does not matter: the meaning accepts the empty list. -/
theorem undefinedItems_empty_refused :
    (∀ T ∈ undefinedItems.parts, ∃ r, T.rule = .ok r) ∧
      (∀ s, Accepts call true undefinedItems (.list .fresh []) s (.list .fresh []) s) ∧
      ((validate call (.schema undefinedItems) (.list .fresh []) (some true)).exec
        Session.start).1 = .error .unknownName := by
  refine ⟨fun T hT => ?_, fun s => ?_, rfl⟩
  · simp only [undefinedItems, Schema.parts, List.mem_cons, List.not_mem_nil, or_false] at hT
    rcases hT with rfl | rfl <;> exact ⟨.unresolved, rfl⟩
  · have fits : LengthFits none none none 0 := ⟨fun _ => nofun, fun _ => nofun⟩
    exact .array rfl fits .nil

end CallContract
