import CallContract.Proofs.Examining
import CallContract.Proofs.Settling

/-!
# Checks that give an answer

Of all faults with which a check can end, only one says that the value does not match. This one is
what `attempt` and `check` make an answer of; all others they pass on (`exec_attempt`,
`exec_check`). So they give an answer wherever there is no other fault.

The other faults of a check come from a few places only (`Rule.Breaks`): from a predicate or a
validator of the engine, if it neither answers nor says something about the value; from the message
of a refinement, if it is no text; from a function in place of a type; from a key that cannot be one
any more; and from the unknown name of a type. A check by a rule without these ends with a verdict
(`Rule.avoids`).
-/

namespace CallContract

/-! ### Answers -/

/-- The answer that is made of the outcome of a check: a failure is an answer, all other faults are
none. -/
def caught : Except Fault Value → Except Fault (Except Failure Value)
  | .ok w => .ok (.ok w)
  | .error (.invalid f) => .ok (.error f)
  | .error e => .error e

section Answers

variable {apply : Caller}

theorem exec_attempt (schema v : Value) (strict : Option Bool) (s : Session) :
    let validated := (validate apply schema v strict).exec s
    (attempt apply schema v strict).exec s = (caught validated.1, validated.2) := by
  intro validated
  rw [attempt, Run.exec_tryCatch, Run.exec_map]
  rcases h : (validate apply schema v strict).exec s with ⟨e | w, t⟩
  · simp only [validated, h]
    cases e <;> rfl
  · simp only [validated, h]
    rfl

theorem exec_check (schema v : Value) (strict : Option Bool) (s : Session) :
    let validated := (validate apply schema v strict).exec s
    (check apply schema v strict).exec s = ((caught validated.1).map Except.isOk, validated.2) := by
  intro validated
  have attempted : (attempt apply schema v strict).exec s = _ := exec_attempt schema v strict s
  refine Prod.ext ?_ ?_
  · rw [check, Run.exec_map_fst, attempted]
  · rw [check, Run.exec_map_snd, attempted]

/-- A fault that is passed on is one of the check, and no failure. -/
theorem caught_eq_error {x : Except Fault Value} {e : Fault} (h : caught x = .error e) :
    x = .error e ∧ ∀ f, e ≠ .invalid f := by
  unfold caught at h
  split at h
  · cases h
  · cases h
  · next other =>
    obtain rfl := Except.error.inj h
    exact ⟨rfl, other⟩

/-- The answer is good exactly if the check gives a value. -/
theorem caught_isOk {x : Except Fault Value} :
    (caught x).map Except.isOk = .ok true ↔ ∃ w, x = .ok w := by
  unfold caught
  split
  · exact ⟨fun _ => ⟨_, rfl⟩, fun _ => rfl⟩
  · exact ⟨nofun, nofun⟩
  · exact ⟨nofun, nofun⟩

end Answers

/-! ### Values whose keys can be keys -/

mutual

/-- Whether all keys of the dictionaries in a value can be keys. -/
def Value.Keyed : Value → Prop
  | .list _ xs | .tuple _ xs | .set _ xs | .frozenset _ xs => KeyedEach xs
  | .dict _ es => KeyedEntries es
  | .point _ x y _ => x.Keyed ∧ y.Keyed
  | _ => True

/-- Whether this is so for all values of a list. -/
def KeyedEach : List Value → Prop
  | [] => True
  | x :: xs => x.Keyed ∧ KeyedEach xs

/-- Whether this is so for all entries of a dictionary, and for the dictionary itself. -/
def KeyedEntries : List (Value × Value) → Prop
  | [] => True
  | (k, x) :: es => (k.isHashable = true ∧ k.Keyed ∧ x.Keyed) ∧ KeyedEntries es

end

theorem KeyedEach.withinLimit {xs : List Value} (h : KeyedEach xs) (most : Option Nat) :
    KeyedEach (withinLimit most xs) := by
  have take (n : Nat) : KeyedEach (xs.take n) := by
    induction xs generalizing n with
    | nil =>
      rw [List.take_nil]
      trivial
    | cons x xs ih =>
      cases n with
      | zero => trivial
      | succ n => exact ⟨h.1, ih h.2 n⟩
  cases most with
  | none => exact h
  | some m => exact take (m + 1)

theorem Value.Keyed.elements {v : Value} {xs : List Value} (h : v.Keyed)
    (found : v.elements? = some xs) : KeyedEach xs := by
  cases v <;> cases found <;> first
    | exact h
    | exact ⟨⟨trivial, h.1, trivial⟩, ⟨trivial, h.2, trivial⟩, trivial⟩
    | exact ⟨⟨trivial, trivial, trivial⟩, ⟨trivial, trivial, trivial⟩, trivial⟩

/-! ### Runs that avoid a fault -/

/-- Whether a run keeps to a class of sessions from a session on, and does not end with a certain
fault. -/
def Run.Avoids (I : Session → Prop) (e : Fault) {α : Type} (m : Run α) (s : Session) : Prop :=
  I (m.exec s).2 ∧ (m.exec s).1 ≠ .error e

namespace Run.Avoids

variable {I : Session → Prop} {e : Fault} {α β : Type} {s : Session}

theorem pure {a : α} (hs : I s) : Run.Avoids I e (Pure.pure a) s := ⟨hs, nofun⟩

theorem throw {e' : Fault} (hs : I s) (other : e' ≠ e) :
    Run.Avoids (α := α) I e (MonadExcept.throw e') s :=
  ⟨hs, fun h => other (Except.error.inj h)⟩

theorem bind {m : Run α} {k : α → Run β} (first : m.Avoids I e s)
    (next : ∀ a t, m.exec s = (.ok a, t) → I t → (k a).Avoids I e t) :
    (m >>= k).Avoids I e s := by
  obtain ⟨kept, avoided⟩ := first
  rcases h : m.exec s with ⟨e' | a, t⟩ <;> rw [h] at kept avoided
  · unfold Avoids
    rw [exec_bind_of_error h]
    exact ⟨kept, fun h => avoided (congrArg Except.error (Except.error.inj h))⟩
  · unfold Avoids
    rw [exec_bind_of_ok h]
    exact next a t h kept

theorem map {m : Run α} (g : α → β) (h : m.Avoids I e s) : (g <$> m).Avoids I e s := by
  rw [← bind_pure_comp]
  exact h.bind fun _ _ _ ht => .pure ht

/-! ### Parts -/

theorem applyItems {check : Value → Run Verdict} {vs : List Value} (keyed : KeyedEach vs)
    (h : ∀ v s, v.Keyed → I s → (check v).Avoids I e s) (i : Nat) (hs : I s) :
    (CallContract.applyItems check i vs).Avoids I e s := by
  induction vs generalizing i s with
  | nil => exact .pure hs
  | cons v vs ih =>
    refine .bind (h v s keyed.1 hs) fun _ t _ ht => ?_
    exact .bind (ih keyed.2 (i + 1) ht) fun _ _ _ hu => .pure hu

/-- Entries are checked without a fault if both sides are, and if a key stays one. -/
theorem applyEntries {key value : Value → Run Verdict} {es : List (Value × Value)}
    (keyed : KeyedEntries es) (hkey : ∀ k s, k.Keyed → I s → (key k).Avoids I e s)
    (hvalue : ∀ v s, v.Keyed → I s → (value v).Avoids I e s)
    (stays : e = .wrongType → ∀ k s k' t, k.isHashable = true → k.Keyed → I s →
      (key k).exec s = (.ok (.ok k'), t) → k'.isHashable = true) (hs : I s) :
    (CallContract.applyEntries key value es).Avoids I e s := by
  induction es generalizing s with
  | nil => exact .pure hs
  | cons entry es ih =>
    obtain ⟨k, v⟩ := entry
    obtain ⟨⟨hashable, keyedKey, keyedValue⟩, others⟩ := keyed
    rw [CallContract.applyEntries]
    refine .bind (hkey k s keyedKey hs) fun rk t checked ht => ?_
    refine .bind (hvalue v t keyedValue ht) fun rv u _ hu => ?_
    have rest {s' : Session} (hs' : I s') := ih others hs'
    cases rk with
    | error is => exact .bind (rest hu) fun _ _ _ hx => .pure hx
    | ok k' =>
      cases rv with
      | error is => exact .bind (rest hu) fun _ _ _ hx => .pure hx
      | ok v' =>
        dsimp only
        split
        · next unhashable =>
          refine .bind (.throw hu fun same => ?_) fun _ _ _ hx =>
            .bind (rest hx) fun _ _ _ hy => .pure hy
          rw [stays same.symm k s k' t hashable keyedKey hs checked] at unhashable
          cases unhashable
        · exact .bind (rest hu) fun _ _ _ hx => .pure hx

end Run.Avoids

/-! ### Rules -/

/-- Whether calls of a function do not lead out of a class of sessions. -/
def Caller.Keeps (apply : Caller) (I : Session → Prop) (f : Value) : Prop :=
  ∀ args kw s, I s → I ((apply f args kw).exec s).2

/-- Whether what a rule calls does not lead out of a class of sessions. -/
def Rule.Keeps (apply : Caller) (I : Session → Prop) : Rule → Prop
  | .after _ p _ => apply.Keeps I p
  | .call _ f => apply.Keeps I f
  | .own type => ∀ b, apply.Keeps I (type.validator b)
  | _ => True

/-- The ways in which a rule can end a check with a fault, in the sessions of a class. -/
inductive Rule.Breaks (apply : Caller) (I : Session → Prop) (b : Bool) : Rule → Fault → Prop where
  /-- The predicate ends with a fault that says nothing about the value, when it is asked about what
  the inner rule has made. -/
  | predicate {r : Rule} {p m v w : Value} {s t u : Session} {e : Fault} : v.Keyed → I s →
    (r.apply apply b v).exec s = (.ok (.ok w), t) → (apply.ask p w).exec t = (.error e, u) →
    e.issues? v = none → Breaks apply I b (.after r p m) e
  /-- The predicate does not agree, and the message is no text. -/
  | message {r : Rule} {p m v w answer : Value} {s t u : Session} : v.Keyed → I s →
    (r.apply apply b v).exec s = (.ok (.ok w), t) → (apply.ask p w).exec t = (.ok answer, u) →
    answer.isTruthy = false → m.text? = none → Breaks apply I b (.after r p m) .wrongType
  /-- A function in place of a type ends with a fault. -/
  | function {sig : List (Parameter Value)} {f : Value} {args : List Value} {kw : Fields}
    {s t : Session} {e : Fault} : I s → (apply f args kw).exec s = (.error e, t) →
    Breaks apply I b (.call sig f) e
  /-- What is made of a key cannot be one. -/
  | key {rk rv : Rule} {k k' : Value} {s t : Session} : k.isHashable = true → k.Keyed → I s →
    (rk.apply apply b k).exec s = (.ok (.ok k'), t) → k'.isHashable = false →
    Breaks apply I b (.dict rk rv) .wrongType
  /-- The validator of an annotation ends with a fault that says nothing about the value. -/
  | validator {type v : Value} {s t : Session} {e : Fault} : v.Keyed → I s →
    (apply.ask (type.validator b) v).exec s = (.error e, t) → e.issues? v = none →
    Breaks apply I b (.own type) e
  /-- The name of a type is not known. -/
  | unknown : Breaks apply I b .unresolved .unknownName

/-- Whether a rule by itself does not end a check with a certain fault. -/
def Rule.Spares (apply : Caller) (I : Session → Prop) (b : Bool) (e : Fault) (r : Rule) : Prop :=
  r.Keeps apply I ∧ ¬ r.Breaks apply I b e

section Rules

variable {apply : Caller} {I : Session → Prop} {b : Bool} {e : Fault}

theorem narrowed_eq_error {m v w : Value} {agrees : Except Fault Bool}
    (h : narrowed m v w agrees = .error e) :
    agrees = .error e ∧ e.issues? v = none ∨
      agrees = .ok false ∧ m.text? = none ∧ e = .wrongType := by
  unfold narrowed at h
  split at h
  · cases h
  · split at h
    · cases h
    · next none => exact .inr ⟨rfl, none, (Except.error.inj h).symm⟩
  · split at h
    · cases h
    · next none =>
      obtain rfl := Except.error.inj h
      exact .inl ⟨rfl, none⟩

/-- Asking a predicate does not end with a fault if the refinement does not break. -/
theorem narrow_avoids {r : Rule} {p m v w : Value} {s t : Session}
    (spares : (Rule.after r p m).Spares apply I b e) (keyed : v.Keyed) (hs : I s)
    (accepted : (r.apply apply b v).exec s = (.ok (.ok w), t)) (ht : I t) :
    (narrow apply p m v w).Avoids I e t := by
  obtain ⟨keeps, unbroken⟩ := spares
  rw [Run.Avoids, exec_narrow_eq]
  refine ⟨keeps _ _ t ht, fun fault => ?_⟩
  obtain ⟨agrees, silent⟩ | ⟨agrees, noText, rfl⟩ := narrowed_eq_error fault
  · rcases asked : (apply.ask p w).exec t with ⟨e' | answer, u⟩ <;> rw [asked] at agrees
    · obtain rfl := Except.error.inj agrees
      exact unbroken (.predicate keyed hs accepted asked silent)
    · cases agrees
  · rcases asked : (apply.ask p w).exec t with ⟨e' | answer, u⟩ <;> rw [asked] at agrees
    · cases agrees
    · exact unbroken (.message keyed hs accepted asked (Except.ok.inj agrees) noText)

/-- Asking a validator does not end with a fault if the annotation does not break. -/
theorem consult_avoids {type v : Value} {s : Session} (spares : (Rule.own type).Spares apply I b e)
    (keyed : v.Keyed) (hs : I s) : (consult apply (type.validator b) v).Avoids I e s := by
  obtain ⟨keeps, unbroken⟩ := spares
  have kept : I ((apply.ask (type.validator b) v).exec s).2 := keeps b [v] [] s hs
  rw [Run.Avoids, exec_consult]
  rcases asked : (apply.ask (type.validator b) v).exec s with ⟨e' | w, t⟩ <;> rw [asked] at kept
  · dsimp only
    cases silent : e'.issues? v with
    | some is => exact ⟨kept, nofun⟩
    | none =>
      refine ⟨kept, fun fault => ?_⟩
      obtain rfl := Except.error.inj fault
      exact unbroken (.validator keyed hs asked silent)
  · exact ⟨kept, nofun⟩

mutual

/-- **Where the faults of a check come from.** A check by a rule does not end with a fault if no
rule in it does by itself. By recursion on the rule. -/
theorem Rule.avoids : ∀ (r : Rule), r.Each (Rule.Spares apply I b e) →
    ∀ (v : Value) (s : Session), v.Keyed → I s → (r.apply apply b v).Avoids I e s
  | .any, _, _, _, _, hs | .null, _, _, _, _, hs | .bool, _, _, _, _, hs | .int, _, _, _, _, hs
  | .float, _, _, _, _, hs | .text, _, _, _, _, hs | .bytes, _, _, _, _, hs
  | .callable, _, _, _, _, hs | .point, _, _, _, _, hs => .pure hs
  | .unresolved, spares, _, _, _, hs => .throw hs fun same => spares.2 (same ▸ .unknown)
  | .optional r, spares, v, s, keyed, hs => by
    cases v <;> first | exact .pure hs | exact avoids r spares.2 _ s keyed hs
  | .list r least most, spares, v, s, keyed, hs => by
    rw [Rule.apply]
    split
    · exact .pure hs
    · next xs found =>
      have items := (keyed.elements (elements_of_listItems found)).withinLimit most
      refine .bind (.applyItems items (avoids r spares.2) 0 hs) fun parts t _ ht => ?_
      dsimp only
      repeat' split
      all_goals exact .pure ht
  | .set r, spares, v, s, keyed, hs => by
    rw [Rule.apply]
    split
    · exact .pure hs
    · next xs found =>
      have items := keyed.elements (elements_of_setItems found)
      have item (x : Value) (t : Session) (hx : x.Keyed) (ht : I t) :=
        (avoids r spares.2 x t hx ht).map (asMember x)
      exact .bind (.applyItems items item 0 hs) fun _ _ _ ht => .pure ht
  | .frozenset r, spares, v, s, keyed, hs => by
    rw [Rule.apply]
    split
    · exact .pure hs
    · next xs found =>
      have items := keyed.elements (elements_of_frozensetItems found)
      have item (x : Value) (t : Session) (hx : x.Keyed) (ht : I t) :=
        (avoids r spares.2 x t hx ht).map (asMember x)
      exact .bind (.applyItems items item 0 hs) fun _ _ _ ht => .pure ht
  | .variadic r, spares, v, s, keyed, hs => by
    rw [Rule.apply]
    split
    · exact .pure hs
    · next xs found =>
      have items := keyed.elements (elements_of_tupleItems found)
      exact .bind (.applyItems items (avoids r spares.2) 0 hs) fun _ _ _ ht => .pure ht
  | .fixed rs, spares, v, s, keyed, hs => by
    rw [Rule.apply]
    split
    · exact .pure hs
    · next xs found =>
      have items := keyed.elements (elements_of_tupleItems found)
      refine .bind (avoidsFixed v rs spares.2 0 xs s items hs) fun parts t _ ht => ?_
      dsimp only
      split <;> exact .pure ht
  | .dict rk rv, spares, v, s, keyed, hs => by
    cases v with
    | dict l es =>
      have entries : (applyEntries (rk.apply apply b) (rv.apply apply b) es).Avoids I e s := by
        refine .applyEntries keyed (avoids rk spares.2.1) (avoids rv spares.2.2) ?_ hs
        rintro rfl k s' k' t hashable keyedKey hs' checked
        by_contra unhashable
        exact spares.1.2 (.key hashable keyedKey hs' checked (Bool.eq_false_iff.mpr unhashable))
      exact .bind entries fun _ _ _ ht => .pure ht
    | _ => exact .pure hs
  | .limited r ls, spares, v, s, keyed, hs => by
    rw [Rule.apply]
    refine .bind (avoids r spares.2 v s keyed hs) fun verdict t _ ht => ?_
    repeat' split
    all_goals exact .pure ht
  | .after r p m, spares, v, s, keyed, hs => by
    rw [Rule.apply]
    refine .bind (avoids r spares.2 v s keyed hs) fun verdict t checked ht => ?_
    cases verdict with
    | error is => exact .pure ht
    | ok w => exact narrow_avoids spares.1 keyed hs checked ht
  | .call sig f, spares, v, s, keyed, hs => by
    rw [Rule.apply]
    split
    · exact .pure hs
    · next args kw _ =>
      refine .map _ ⟨spares.1 args kw s hs, fun fault => ?_⟩
      exact spares.2 (.function hs (Prod.ext fault rfl))
  | .own _, spares, _, _, keyed, hs => consult_avoids spares keyed hs

theorem Rule.avoidsFixed (whole : Value) : ∀ (rs : List Rule), EachOf (Rule.Spares apply I b e) rs →
    ∀ (i : Nat) (vs : List Value) (s : Session), KeyedEach vs → I s →
      (applyFixed apply b whole rs i vs).Avoids I e s
  | [], _, _, _, _, _, hs => .pure hs
  | _ :: rs, spares, i, [], s, keyed, hs =>
    .bind (avoidsFixed whole rs spares.2 (i + 1) [] s keyed hs) fun _ _ _ ht => .pure ht
  | r :: rs, spares, i, v :: vs, s, keyed, hs =>
    .bind (avoids r spares.1 v s keyed.1 hs) fun _ t _ ht =>
      .bind (avoidsFixed whole rs spares.2 (i + 1) vs t keyed.2 ht) fun _ _ _ hu => .pure hu

end

end Rules

/-! ### Schemas -/

/-- Whether no rule in that of a schema ends a check with a certain fault. -/
def Schema.Spares (apply : Caller) (I : Session → Prop) (b : Bool) (e : Fault) (S : Schema) :
    Prop :=
  Gives (Rule.Each (Rule.Spares apply I b e)) S.rule

/-- A check by a schema that has an adapter does not end with a fault, unless a rule of it does or
the value does not match. -/
theorem Schema.Spares.validate_ne {apply : Caller} {I : Session → Prop} {b : Bool} {e : Fault}
    {S : Schema} (spares : S.Spares apply I b e) (other : ∀ f, e ≠ .invalid f)
    {strict : Option Bool} {s t : Session} (serves : AdapterStore.Serves apply S s.adapters)
    (prepared : (S.prepare strict).exec s = (.ok b, t)) (ht : I t) {v : Value} (keyed : v.Keyed) :
    ((validate apply (.schema S) v strict).exec s).1 ≠ .error e := by
  obtain ⟨a, u, found, -⟩ := Run.exec_bind_eq_ok.mp prepared
  obtain ⟨r, rule, -⟩ := Schema.rule_of_adapter serves found
  have examined : (S.examine apply b v).Avoids I e t := by
    rw [examine, rule, Run.lift_ok, pure_bind]
    exact r.avoids (spares r rule) v t keyed ht
  have settled : (S.examine apply b v >>= Verdict.settle).Avoids I e t := by
    refine examined.bind fun verdict u _ hu => ?_
    cases verdict with
    | ok w => exact .pure hu
    | error is => exact .throw hu fun same => other _ same.symm
  rw [validate_of_prepared serves prepared]
  exact settled.2

/-- **Answers to all values.** `attempt` and `check` give the answer that the outcome of a check is,
and leave the same session: the value, or the failure if the check ends with one. All other faults
they pass on as they are. A schema for which an adapter can be made, and whose rules do not break
with a fault, does not make them end with it; so they answer if the rules do not break. -/
theorem check_answers {apply : Caller} (S : Schema) (v : Value) (strict : Option Bool)
    (s : Session) :
    let validated := (validate apply (.schema S) v strict).exec s
    let attempted := (attempt apply (.schema S) v strict).exec s
    let checked := (check apply (.schema S) v strict).exec s
    (attempted = (caught validated.1, validated.2) ∧
        checked = ((caught validated.1).map Except.isOk, validated.2)) ∧
      (checked.1 = .ok true ↔ ∃ w, validated.1 = .ok w) ∧
      ∀ (I : Session → Prop) (b : Bool) (t : Session), AdapterStore.Serves apply S s.adapters →
        (S.prepare strict).exec s = (.ok b, t) → I t → v.Keyed →
        (∀ e, S.Spares apply I b e → attempted.1 ≠ .error e ∧ checked.1 ≠ .error e) ∧
          ((∀ e, (∀ f, e ≠ .invalid f) → S.Spares apply I b e) →
            ∃ answer, attempted.1 = .ok answer ∧ checked.1 = .ok answer.isOk) := by
  intro validated attempted checked
  have attempted_eq : attempted = (caught validated.1, validated.2) := exec_attempt ..
  have checked_eq : checked = ((caught validated.1).map Except.isOk, validated.2) := exec_check ..
  refine ⟨⟨attempted_eq, checked_eq⟩, ?_, fun I b t serves prepared ht keyed => ?_⟩
  · rw [checked_eq]
    exact caught_isOk
  rw [attempted_eq, checked_eq]
  dsimp only
  have answers (e : Fault) (spares : (∀ f, e ≠ .invalid f) → S.Spares apply I b e) :
      caught validated.1 ≠ .error e := by
    intro h
    obtain ⟨same, other⟩ := caught_eq_error h
    exact (spares other).validate_ne other serves prepared ht keyed same
  refine ⟨fun e spares => ⟨answers e fun _ => spares, fun h => ?_⟩, fun whole => ?_⟩
  · cases answered : caught validated.1 with
    | error e' =>
      rw [answered] at h
      cases h
      exact answers e (fun _ => spares) answered
    | ok answer =>
      rw [answered] at h
      cases h
  · cases answered : caught validated.1 with
    | error e => exact absurd answered (answers e (whole e))
    | ok answer => exact ⟨answer, rfl, rfl⟩

/-- Asking for the length of a text does not break a check. -/
theorem nonemptyText_spares (b : Bool) (e : Fault) :
    nonemptyText.Spares call (fun _ => True) b e := by
  rintro _ ⟨⟩
  refine ⟨⟨fun _ _ _ _ => trivial, fun breaks => ?_⟩, trivial, nofun⟩
  cases breaks with
  | @predicate _ _ _ v w _ _ _ _ _ _ accepted asked _ =>
    have read : Verdict.ofReading v (Scalar.text b v) = .ok w := (Run.exec_pure_eq_ok.mp accepted).1
    cases text : Scalar.text b v with
    | error c =>
      rw [text] at read
      cases read
    | ok x =>
      rw [text] at read
      cases read
      obtain ⟨content, rfl⟩ := text_eq_ok text
      cases asked
  | message _ _ _ _ _ noText => cases noText

theorem check_answers_nonemptyText :
    let v := Value.text ""
    ∃ f, ((attempt call (.schema nonemptyText) v (some true)).exec .start).1 = .ok (.error f) ∧
      ((check call (.schema nonemptyText) v (some true)).exec .start).1 = .ok false := by
  intro v
  have prepared : (nonemptyText.prepare (some true)).exec .start =
    (.ok true, (nonemptyText.adapter.exec .start).2) := rfl
  have served : AdapterStore.Serves call nonemptyText Session.start.adapters :=
    AdapterStore.serves_nil _ _
  obtain ⟨-, -, answers⟩ := check_answers nonemptyText v (some true) .start
  obtain ⟨answer, attempted, checked⟩ :=
    (answers (fun _ => True) true _ served prepared trivial trivial).2 fun e _ =>
      nonemptyText_spares true e
  have refused : ((check call (.schema nonemptyText) v (some true)).exec .start).1 = .ok false :=
    rfl
  cases answer with
  | ok w => cases checked.symm.trans refused
  | error f => exact ⟨f, attempted, refused⟩

/-- Whole numbers are asked for their length, which they do not have: the fault of the predicate
goes through. So do the fault of a message that is no text, that of a function in place of a type,
that of a key that is made a list, and that of a type without a name. -/
theorem lengthOfNumber_unanswered :
    let outcome (S : Schema) (v : Value) (b : Bool) :=
      ((check call (.schema S) v (some b)).exec .start).1
    let len := Value.function (.builtin .len)
    let int := Value.type .int
    let raise := Value.function
      (.defined Label.firstFree { stretchDefinition with body := .raise .value "no" })
    let lists := Value.form .fresh .list [int]
    let keyed := Value.dict .fresh [(.tuple .fresh [.int 1], .int 2)]
    outcome (.refined .fresh (.primitive .fresh int) len (.text "m")) (.int 1) true =
        .error .wrongType ∧
      outcome (.refined .fresh (.primitive .fresh (.type .text)) len (.int 5)) (.text "") true =
        .error .wrongType ∧
      outcome (.primitive .fresh raise) (.tuple .fresh []) true =
        .error (.raised .value "no") ∧
      outcome (.primitive .fresh (.form .fresh .dict [lists, int])) keyed false =
        .error .wrongType ∧
      outcome undefinedItems (.list .fresh []) true = .error .unknownName := by
  intro outcome len int raise lists keyed
  refine ⟨rfl, rfl, ?_, rfl, rfl⟩
  have rule : (Schema.primitive .fresh raise).rule = .ok (.call [required "xs" .variadic] raise) :=
    variadic_rule _
  have new : AdapterStore.take? (.primitive .fresh raise) Session.start.adapters = none := rfl
  have hashable : (Schema.primitive .fresh raise).isHashable = true := rfl
  dsimp only [outcome]
  rw [exec_check, validate_of_new hashable rule new]
  rfl

end CallContract
