import CallContract.Call
import CallContract.Proofs.Running
import Mathlib.Data.List.Forall2

/-!
# Equal schemas check alike

Schemas that are equal need not be built from the same parts: `True` and `1` are equal bounds, and
a message is equal to a mode with the same word. This module shows that they come down to rules
that check every value alike (`Schema.rule_agree`), under three conditions.

* The bounds of array schemas are whole numbers or truth values. A double can equal one of these but
  is refused as a bound, so that equality of schemas says too little about it.
* Functions and array schemas, which are compared by identity, are the same objects wherever they
  have the same identity. A `Stock` says which of them are in use together.
* Annotations by which the engine checks values in a way of its own are given in the same way
  wherever they are equal. The order of the choices of a union does not count in a comparison, but
  it does when the engine chooses.
-/

namespace CallContract

/-! ### Results that agree -/

/-- Two results that agree: both good and related, or the same fault. -/
inductive Agree {α β : Type} (R : α → β → Prop) : Except Fault α → Except Fault β → Prop where
  /-- Both are good. -/
  | ok {a : α} {b : β} : R a b → Agree R (.ok a) (.ok b)
  /-- Both are the same fault. -/
  | error (e : Fault) : Agree R (.error e) (.error e)

namespace Agree

variable {α β γ δ : Type} {R : α → β → Prop} {R' : γ → δ → Prop}

theorem refl {R : α → α → Prop} (h : ∀ a, R a a) (x : Except Fault α) : Agree R x x := by
  cases x with
  | ok a => exact .ok (h a)
  | error e => exact .error e

theorem bind {x : Except Fault α} {y : Except Fault β} {f : α → Except Fault γ}
    {g : β → Except Fault δ} (h : Agree R x y) (next : ∀ a b, R a b → Agree R' (f a) (g b)) :
    Agree R' (x >>= f) (y >>= g) := by
  cases h with
  | ok hab => exact next _ _ hab
  | error e => exact .error e

end Agree

/-! ### Objects in use together -/

/-- The functions and array schemas that are in use together: no two of them are the same object
unless they are the same in every respect. Of the annotations by which the engine checks values in a
way of its own, no two are equal unless they differ in labels only. -/
structure Stock where
  /-- The functions in use. -/
  function : Function → Prop
  /-- The array schemas in use. -/
  array : Schema → Prop
  /-- The annotations in use by which the engine checks values in a way of its own. -/
  own : Value → Prop
  oneFunction : ∀ f g, function f → function g → f.sameObject g = true → f = g
  oneArray : ∀ s t, array s → array t → s.label.sameObject t.label = true → s = t
  oneOwn : ∀ v w, own v → own w → v.same w = true → v.unnamed = w.unnamed

namespace Stock

mutual

/-- Whether the functions and annotations in a value are in use: those that a rule for it can be
made of. -/
def HoldsValue (C : Stock) : Value → Prop
  | .function f => C.function f
  | .tuple _ xs => C.HoldsValues xs
  | .form _ (.validator _) _ => True
  | .form l f xs => ((Value.form l f xs).isOwn = true → C.own (.form l f xs)) ∧ C.HoldsValues xs
  | _ => True

/-- Whether the functions and annotations in the values of a list are in use. -/
def HoldsValues (C : Stock) : List Value → Prop
  | [] => True
  | x :: xs => C.HoldsValue x ∧ C.HoldsValues xs

end

/-- Whether a bound of an array schema is missing, or a whole number or truth value. -/
def WholeBound (n : Option Numeral) : Prop := ∀ m, n = some m → m.whole?.isSome = true

mutual

/-- Whether a schema is made of objects in use and has whole bounds. What a function schema says
about arguments and results does not count, as values are not checked by it. -/
def Holds (C : Stock) : Schema → Prop
  | .primitive _ t => C.HoldsValue t
  | .refined _ s p _ => C.Holds s ∧ C.HoldsValue p
  | .tuple _ ss => C.HoldsAll ss
  | .array l s n lo hi =>
    C.array (.array l s n lo hi) ∧ C.Holds s ∧ WholeBound n ∧ WholeBound lo ∧ WholeBound hi
  | _ => True

/-- Whether all schemas of a list are so. -/
def HoldsAll (C : Stock) : List Schema → Prop
  | [] => True
  | s :: ss => C.Holds s ∧ C.HoldsAll ss

end

/-- Values in the place of types that are equal, can be keys, and have functions in use only. -/
structure SameType (C : Stock) (v w : Value) : Prop where
  same : v.same w = true
  hashable : v.isHashable = true
  left : C.HoldsValue v
  right : C.HoldsValue w

variable {C : Stock}

theorem own_of_holds {v : Value} (held : C.HoldsValue v) (own : v.isOwn = true) : C.own v := by
  cases v with
  | form l f xs =>
    cases f with
    | validator => cases own
    | _ => exact held.1 own
  | _ => cases own

theorem sameTypes_of_sameItems {xs ys : List Value} (same : sameItems xs ys = true)
    (hashable : allHashable xs = true) (left : C.HoldsValues xs) (right : C.HoldsValues ys) :
    List.Forall₂ C.SameType xs ys := by
  induction xs generalizing ys with
  | nil =>
    cases ys with
    | nil => exact .nil
    | cons y ys => simp [sameItems] at same
  | cons x xs ih =>
    cases ys with
    | nil => simp [sameItems] at same
    | cons y ys =>
      simp only [sameItems, allHashable, Bool.and_eq_true] at same hashable
      exact .cons ⟨same.1, hashable.1, left.1, right.1⟩ (ih same.2 hashable.2 left.2 right.2)

end Stock

/-- Whether calls do not tell equal predicates apart. -/
def Stock.CallsAlike (C : Stock) (apply : Caller) : Prop :=
  ∀ p q, C.SameType p q → apply p = apply q

/-- Whether predicates are called alike by all who do not tell equal predicates apart. -/
def Stock.AskedAlike (C : Stock) (p q : Value) : Prop :=
  ∀ apply : Caller, C.CallsAlike apply → apply.ask p = apply.ask q

theorem Stock.SameType.askedAlike {C : Stock} {p q : Value} (h : C.SameType p q) :
    C.AskedAlike p q := by
  intro apply calls
  funext v
  rw [Caller.ask, Caller.ask, calls p q h]

/-- Validators of equal annotations that can be keys answer alike: they choose from no described
alternatives. -/
theorem validator_callBy_eq {xs ys : List Value} (same : sameItems xs ys = true)
    (hashable : allHashable xs = true) (l l' : Label) (strict : Bool) (apply : Caller)
    (args : List Value) (kw : Keywords) :
    (Value.form l (.validator strict) xs).callBy apply args kw =
      (Value.form l' (.validator strict) ys).callBy apply args kw := by
  have undescribed {v w : Value} (h : v.same w = true) (hv : v.isHashable = true) :
      v.alternatives? = none ∧ w.alternatives? = none := by
    cases w with
    | dict => cases v <;> simp [Value.same, Value.numeral?, Value.text?, Value.isHashable] at h hv
    | _ => cases v <;> first | exact ⟨rfl, rfl⟩ | simp [Value.isHashable] at hv
  rcases xs with _ | ⟨x, _ | ⟨x', xs⟩⟩ <;> rcases ys with _ | ⟨y, _ | ⟨y', ys⟩⟩ <;>
    simp only [sameItems, List.isEmpty, Bool.and_false, Bool.false_eq_true] at same
  · rfl
  · simp only [allHashable, Bool.and_eq_true] at same hashable
    obtain ⟨hx, hy⟩ := undescribed same.1 hashable.1
    simp only [Value.callBy, Value.validateBy, hx, hy]
  · rfl

/-- What is called by equal values is equal, as far as calls show. -/
theorem Stock.SameType.callBy_eq {C : Stock} {p q : Value} (h : C.SameType p q) (apply : Caller)
    (args : List Value) (kw : Keywords) : p.callBy apply args kw = q.callBy apply args kw := by
  -- The type under a mark is smaller than the marked one.
  induction size : sizeOf p using Nat.strongRecOn generalizing p q with | _ n ih
  subst size
  cases p with
  | function f =>
    obtain ⟨same, -, left, right⟩ := h
    cases q <;> simp only [Value.same, Bool.false_eq_true] at same
    rw [C.oneFunction _ _ left right same]
  | type t =>
    have same := h.same
    cases q <;> simp only [Value.same, Bool.false_eq_true, beq_iff_eq] at same
    rw [same]
  | form l f xs =>
    obtain ⟨same, hashable, left, right⟩ := h
    obtain ⟨l', ys, rfl, sameParts⟩ := Value.exists_form_of_same same
    simp only [Value.isHashable] at hashable
    cases f with
    | validator strict =>
      exact validator_callBy_eq (sameParts nofun nofun) hashable l l' strict apply args kw
    | marked =>
      have parts := Stock.sameTypes_of_sameItems (sameParts nofun nofun) hashable left.2 right.2
      cases parts with
      | nil => rfl
      | cons hx _ =>
        rw [Value.callBy, Value.callBy]
        refine ih _ ?_ hx rfl
        simp only [Value.form.sizeOf_spec, List.cons.sizeOf_spec]
        omega
    | _ => rfl
  | _ =>
    have same := h.same
    cases q <;> first | rfl | simp [Value.same, Value.numeral?, Value.text?] at same

/-- Calls do not tell equal predicates apart, however deep they are nested. -/
theorem callWithin_callsAlike (C : Stock) (depth : Nat) : C.CallsAlike (callWithin depth) := by
  intro p q h
  cases depth with
  | zero => rfl
  | succ depth =>
    funext args kw
    rw [callWithin_succ, callWithin_succ, h.callBy_eq]

/-! ### Rules that check alike -/

mutual

/-- Rules that differ only in predicates that are called alike and in how a message is given. -/
inductive Rule.Alike (C : Stock) : Rule → Rule → Prop where
  /-- A rule is like itself. -/
  | refl (r : Rule) : Alike C r r
  /-- Lists with items that are checked alike. -/
  | list {r r' : Rule} (least most : Option Nat) :
    Alike C r r' → Alike C (.list r least most) (.list r' least most)
  /-- Tuples with items that are checked alike. -/
  | fixed {rs rs' : List Rule} : AlikeAll C rs rs' → Alike C (.fixed rs) (.fixed rs')
  /-- Rules with predicates that are called alike after them. -/
  | after {r r' : Rule} {p p' m m' : Value} : Alike C r r' → C.AskedAlike p p' →
    m.text? = m'.text? → Alike C (.after r p m) (.after r' p' m')

/-- Lists of rules that check alike, one by one. -/
inductive Rule.AlikeAll (C : Stock) : List Rule → List Rule → Prop where
  /-- No rules. -/
  | nil : AlikeAll C [] []
  /-- One more rule on both sides. -/
  | cons {r r' : Rule} {rs rs' : List Rule} :
    Alike C r r' → AlikeAll C rs rs' → AlikeAll C (r :: rs) (r' :: rs')

end

theorem narrow_congr {apply : Caller} {p p' m m' : Value} (hp : apply.ask p = apply.ask p')
    (hm : m.text? = m'.text?) (v w : Value) : narrow apply p m v w = narrow apply p' m' v w := by
  unfold narrow
  rw [hp, hm]

theorem Rule.AlikeAll.length_eq {C : Stock} :
    ∀ {rs rs' : List Rule}, Rule.AlikeAll C rs rs' → rs.length = rs'.length
  | _, _, .nil => rfl
  | _, _, .cons _ h => by rw [List.length_cons, List.length_cons, h.length_eq]

mutual

/-- Rules that are alike give the same verdicts. -/
theorem Rule.Alike.apply_eq {C : Stock} {apply : Caller} (calls : C.CallsAlike apply) (b : Bool) :
    ∀ {r r' : Rule}, r.Alike C r' → ∀ v, r.apply apply b v = r'.apply apply b v
  | _, _, .refl _, _ => rfl
  | _, _, .list least most h, v => by
    have items := funext fun x => h.apply_eq calls b x
    simp only [Rule.apply, items]
  | _, _, .fixed h, v => by
    have items := fun whole i xs => h.applyFixed_eq calls b whole i xs
    simp only [Rule.apply, h.length_eq, items]
  | _, _, .after h hp hm, v => by
    simp only [Rule.apply, h.apply_eq calls b v, narrow_congr (hp apply calls) hm]

theorem Rule.AlikeAll.applyFixed_eq {C : Stock} {apply : Caller} (calls : C.CallsAlike apply)
    (b : Bool) (whole : Value) :
    ∀ {rs rs' : List Rule}, Rule.AlikeAll C rs rs' → ∀ (i : Nat) (vs : List Value),
      applyFixed apply b whole rs i vs = applyFixed apply b whole rs' i vs
  | _, _, .nil, _, _ => rfl
  | _, _, .cons _ hs, i, [] => by simp only [applyFixed, hs.applyFixed_eq calls b whole (i + 1) []]
  | _, _, .cons h hs, i, v :: vs => by
    simp only [applyFixed, h.apply_eq calls b v, hs.applyFixed_eq calls b whole (i + 1) vs]

end

mutual

/-- Labels do not count for the rule of an annotation. -/
theorem rule_unnamed : ∀ v : Value, v.unnamed.rule = v.rule
  | .form l f xs => by
    have parts := rules_unnamedAll xs
    rw [Value.unnamed_form]
    rcases xs with _ | ⟨x, _ | ⟨y, _ | ⟨z, xs⟩⟩⟩ <;> cases f <;>
      simp_all [Value.rule, Value.unnamedAll, rule_unnamed]
  | .null | .bool _ | .int _ | .float _ | .nan _ | .text _ | .bytes _ | .mode _ | .boundary _
  | .list .. | .tuple .. | .set .. | .frozenset .. | .dict .. | .point .. | .token .. | .record ..
  | .type _ | .schema _ | .contract _ | .function _ | .settings .. | .pending .. | .other .. => rfl

theorem rules_unnamedAll : ∀ xs : List Value, rules (Value.unnamedAll xs) = rules xs
  | [] => rfl
  | x :: xs => by rw [Value.unnamedAll, rules, rules, rule_unnamed x, rules_unnamedAll xs]

end

/-- The rules of the parts of a form decide about its rule, unless the engine checks values by the
form in a way of its own. -/
theorem form_rule_congr {f : Form} {l l' : Label} {xs ys : List Value}
    (known : (Value.form l f xs).isOwn = false) (known' : (Value.form l' f ys).isOwn = false)
    (h : List.Forall₂ (fun x y : Value => x.rule = y.rule) xs ys) :
    (Value.form l f xs).rule = (Value.form l' f ys).rule := by
  have all : rules xs = rules ys := by
    clear known known'
    induction h with
    | nil => rfl
    | cons hx _ ih => rw [rules, rules, hx, ih]
  rcases h with _ | ⟨h₁, _ | ⟨h₂, _ | ⟨h₃, h⟩⟩⟩ <;> cases f <;> simp_all [Value.rule, Value.isOwn]

/-- Whether a value may be narrowed in the place of a type does not tell equal values apart. -/
theorem isPlainData_eq_of_same {v w : Value} (same : v.same w = true) :
    v.isPlainData = w.isPlainData := by
  cases v with
  | form l f xs =>
    obtain ⟨l', ys, rfl, -⟩ := Value.exists_form_of_same same
    rfl
  | _ => cases w <;> first | rfl | simp [Value.same, Value.numeral?, Value.text?] at same

theorem all_isPlainData_eq_of_sameItems {xs ys : List Value} (same : sameItems xs ys = true) :
    xs.all Value.isPlainData = ys.all Value.isPlainData := by
  induction xs generalizing ys with
  | nil =>
    cases ys with
    | nil => rfl
    | cons y ys => simp [sameItems] at same
  | cons x xs ih =>
    cases ys with
    | nil => simp [sameItems] at same
    | cons y ys =>
      simp only [sameItems, Bool.and_eq_true] at same
      rw [List.all_cons, List.all_cons, isPlainData_eq_of_same same.1, ih same.2]

/-- Whether the engine checks values in a way of its own does not tell equal annotations apart. -/
theorem isOwn_eq_of_same {v w : Value} (same : v.same w = true) : v.isOwn = w.isOwn := by
  cases v with
  | form l f xs =>
    obtain ⟨l', ys, rfl, sameParts⟩ := Value.exists_form_of_same same
    cases f with
    | marked =>
      have same := sameParts nofun nofun
      cases xs <;> cases ys <;> simp only [sameItems, List.isEmpty, Bool.false_eq_true] at same
      · rfl
      · rw [Bool.and_eq_true] at same
        rw [Value.isOwn, Value.isOwn, all_isPlainData_eq_of_sameItems same.2]
    | _ => rfl
  | _ => cases w <;> first | rfl | simp [Value.same, Value.numeral?, Value.text?] at same

/-- Values that give the same text name the same type. -/
theorem rule_eq_of_text {v w : Value} {t : String} (hv : v.text? = some t)
    (hw : w.text? = some t) : v.rule = w.rule := by
  have named {u : Value} (hu : u.text? = some t) : u.rule = TypeText.ruleOfText t := by
    cases u <;> simp only [Value.text?, Option.some.injEq, reduceCtorEq] at hu <;>
      simp only [Value.rule, hu]
  rw [named hv, named hw]

/-- Whether a value may stand in the place of a type. -/
def Value.isTyping : Value → Bool
  | .null | .text _ | .mode _ | .boundary _ | .type _ | .dict .. | .function _ | .form .. => true
  | _ => false

theorem rule_eq_of_not_typing {v w : Value} (hv : v.isTyping = false) (same : v.same w = true) :
    v.rule = w.rule := by
  have untyped {u : Value} (hu : u.isTyping = false) : u.rule = .error .noRule := by
    cases u <;> first | rfl | cases hu
  have hw : w.isTyping = false := by
    cases v <;> cases hv <;> cases w <;> first | rfl | simp [Value.same, Value.numeral?] at same
  rw [untyped hv, untyped hw]

mutual

/-- Equal types have the same rule. -/
theorem Stock.SameType.rule_eq {C : Stock} : ∀ {v w : Value}, C.SameType v w → v.rule = w.rule
  | .form l f xs, w, h => by
    obtain ⟨same, hashable, left, right⟩ := h
    obtain ⟨l', ys, rfl, sameParts⟩ := Value.exists_form_of_same same
    cases own : (Value.form l f xs).isOwn with
    | true =>
      have own' : (Value.form l' f ys).isOwn = true := isOwn_eq_of_same same ▸ own
      have given := C.oneOwn _ _ (Stock.own_of_holds left own) (Stock.own_of_holds right own') same
      rw [← rule_unnamed, given, rule_unnamed]
    | false =>
      have own' : (Value.form l' f ys).isOwn = false := isOwn_eq_of_same same ▸ own
      simp only [Value.isHashable] at hashable
      cases f with
      | validator => rfl
      | union | literal | other => cases own
      | _ =>
        exact form_rule_congr own own' (rules_eq (Stock.sameTypes_of_sameItems
          (sameParts nofun nofun) hashable left.2 right.2))
  | .function f, w, h => by
    obtain ⟨same, -, left, right⟩ := h
    cases w <;> simp only [Value.same, Bool.false_eq_true] at same
    rw [C.oneFunction _ _ left right same]
  | .text t, w, h => rule_eq_of_text rfl (by simpa [Value.same] using h.same)
  | .mode m, w, h => rule_eq_of_text rfl (by simpa [Value.same] using h.same)
  | .boundary b, w, h => rule_eq_of_text rfl (by simpa [Value.same] using h.same)
  | .type t, w, h => by
    have same := h.same
    cases w <;> simp only [Value.same, Bool.false_eq_true, beq_iff_eq] at same
    rw [same]
  | .dict .., _, h => by simpa [Value.isHashable] using h.hashable
  | .null, w, h => by
    have same := h.same
    cases w <;> simp only [Value.same, Bool.false_eq_true] at same
    rfl
  | .bool _, _, h | .int _, _, h | .float _, _, h | .nan _, _, h | .bytes _, _, h
  | .list .., _, h | .tuple .., _, h | .set .., _, h | .frozenset .., _, h | .point .., _, h
  | .token .., _, h | .record .., _, h | .schema _, _, h | .contract _, _, h
  | .settings .., _, h | .pending .., _, h | .other .., _, h => rule_eq_of_not_typing rfl h.same

theorem rules_eq {C : Stock} : ∀ {xs ys : List Value}, List.Forall₂ C.SameType xs ys →
    List.Forall₂ (fun x y : Value => x.rule = y.rule) xs ys
  | [], _, h => by
    cases h
    exact .nil
  | x :: xs, _, h => by
    cases h with
    | cons hx hxs => exact .cons hx.rule_eq (rules_eq hxs)

end

/-- Equal texts are equal as messages, and what is no text equals no text. -/
theorem text?_eq_of_same {v w : Value} (same : v.same w = true) : v.text? = w.text? := by
  cases v <;> first
    | (simp only [Value.same, beq_iff_eq] at same; exact same.symm)
    | (cases w <;> first | rfl | simp [Value.same, Value.numeral?] at same)

/-- Whether a value is a tuple. -/
def Value.isTuple : Value → Bool
  | .tuple .. => true
  | _ => false

theorem exists_tuple {v : Value} (h : v.isTuple = true) : ∃ l xs, v = .tuple l xs := by
  cases v <;> first | exact ⟨_, _, rfl⟩ | cases h

theorem isTuple_eq_of_same {v w : Value} (same : v.same w = true) : v.isTuple = w.isTuple := by
  cases v <;> cases w <;> first | rfl | simp [Value.same, Value.numeral?, Value.text?] at same

/-! ### Annotations that are alike -/

/-- Notes that narrow a rule alike. -/
inductive Note.Alike (C : Stock) : Note → Note → Prop where
  /-- Bounds that count the same numbers of items. -/
  | lengths {least least' most most' : Option Numeral} :
    boundCount least = boundCount least' → boundCount most = boundCount most' →
    Alike C (.lengths least most) (.lengths least' most')
  /-- Predicates that are called alike. -/
  | check {p p' m m' : Value} : C.AskedAlike p p' → m.text? = m'.text? →
    Alike C (.check p m) (.check p' m')

theorem Note.Alike.refl {C : Stock} (n : Note) : n.Alike C n := by
  cases n with
  | lengths => exact .lengths rfl rfl
  | check => exact .check (fun _ _ => rfl) rfl

mutual

/-- Annotations with equal types and with notes that narrow alike. -/
inductive Annotation.Alike (C : Stock) : Annotation → Annotation → Prop where
  /-- An annotation is like itself. -/
  | refl (a : Annotation) : Alike C a a
  /-- Equal types. -/
  | type {v w : Value} : C.SameType v w → Alike C (.type v) (.type w)
  /-- Lists of what is alike. -/
  | list {a b : Annotation} : Alike C a b → Alike C (.list a) (.list b)
  /-- Tuples of what is alike. -/
  | tuple {as bs : List Annotation} :
    AlikeAll C as bs → Alike C (.tuple as) (.tuple bs)
  /-- What is alike with notes that are alike. -/
  | noted {a b : Annotation} {ns ms : List Note} : Alike C a b →
    List.Forall₂ (Note.Alike C) ns ms → Alike C (.noted a ns) (.noted b ms)

/-- Lists of annotations that are alike, one by one. -/
inductive Annotation.AlikeAll (C : Stock) :
    List Annotation → List Annotation → Prop where
  /-- No annotations. -/
  | nil : AlikeAll C [] []
  /-- One more annotation on both sides. -/
  | cons {a b : Annotation} {as bs : List Annotation} :
    Alike C a b → AlikeAll C as bs → AlikeAll C (a :: as) (b :: bs)

end

namespace Annotation

variable {C : Stock} {a b : Annotation}

theorem note_type (v : Value) (n : Note) : note (.type v) n =
    if v.isTuple then .error .wrongType
    else if v.isPlainData then .error .noAttribute
    else .ok (.noted (.type v) [n]) := by
  cases v <;> rfl

/-- One more note on annotations that are alike. -/
theorem Alike.note (h : a.Alike C b) {n m : Note} (hn : n.Alike C m) :
    Agree (Alike C) (a.note n) (b.note m) := by
  have one : List.Forall₂ (Note.Alike C) [n] [m] := .cons hn .nil
  have onType {v w : Value} (hvw : Alike C (.type v) (.type w))
      (tuple : v.isTuple = w.isTuple) (plain : v.isPlainData = w.isPlainData) :
      Agree (Alike C) ((.type v : Annotation).note n) ((.type w : Annotation).note m) := by
    rw [note_type, note_type, tuple, plain]
    cases w.isTuple with
    | true => exact .error _
    | false =>
      cases w.isPlainData with
      | true => exact .error _
      | false => exact .ok (.noted hvw one)
  cases h with
  | refl a =>
    cases a with
    | type v => exact onType (.refl _) rfl rfl
    | noted a ns =>
      exact .ok (.noted (.refl a)
        (List.rel_append (List.forall₂_same.mpr fun k _ => .refl k) one))
    | any => exact .ok (.noted (.refl _) one)
    | callable => exact .ok (.noted (.refl _) one)
    | list a => exact .ok (.noted (.refl _) one)
    | tuple as => exact .ok (.noted (.refl _) one)
  | type h => exact onType (.type h) (isTuple_eq_of_same h.same) (isPlainData_eq_of_same h.same)
  | list h => exact .ok (.noted (.list h) one)
  | tuple h => exact .ok (.noted (.tuple h) one)
  | noted h hns => exact .ok (.noted h (List.rel_append hns one))

/-- Annotations that are alike stay so as items of a list. -/
theorem Alike.asItem (h : a.Alike C b) : a.asItem.Alike C b.asItem := by
  cases h with
  | refl a => exact .refl _
  | list h => exact .list h
  | tuple h => exact .tuple h
  | noted h hns => exact .noted h hns
  | @type v w h =>
    cases hv : v.isTuple with
    | false =>
      have hw : w.isTuple = false := isTuple_eq_of_same h.same ▸ hv
      have stays {u : Value} (hu : u.isTuple = false) :
          (.type u : Annotation).asItem = .type u := by
        cases u <;> first | rfl | cases hu
      rw [stays hv, stays hw]
      exact .type h
    | true =>
      -- Of a bare tuple the first type counts, and first types are equal as well.
      obtain ⟨l, xs, rfl⟩ := exists_tuple hv
      obtain ⟨l', ys, rfl⟩ := exists_tuple (isTuple_eq_of_same h.same ▸ hv)
      have items : sameItems xs ys = true := by simpa only [Value.same] using h.same
      have parts : allHashable xs = true := by simpa only [Value.isHashable] using h.hashable
      cases Stock.sameTypes_of_sameItems items parts h.left h.right with
      | nil => exact .refl _
      | cons hx _ => exact .type hx

mutual

/-- Annotations that are alike are refused for the same types. -/
theorem Alike.audit_eq : ∀ {a b : Annotation}, a.Alike C b → a.audit = b.audit
  | _, _, .refl _ => rfl
  | _, _, .type h => by simp only [audit, auditType, h.rule_eq]
  | _, _, .list h => by simp only [audit, h.audit_eq]
  | _, _, .tuple h => by simp only [audit, h.auditAll_eq]
  | _, _, .noted h _ => by simp only [audit, h.audit_eq]

theorem AlikeAll.auditAll_eq :
    ∀ {as bs : List Annotation}, AlikeAll C as bs → auditAll as = auditAll bs
  | _, _, .nil => rfl
  | _, _, .cons h hs => by simp only [auditAll, h.audit_eq, hs.auditAll_eq]

end

end Annotation

theorem Rule.Alike.noted {C : Stock} {r r' : Rule} (h : r.Alike C r') {n m : Note}
    (hn : n.Alike C m) : Agree (Rule.Alike C) (r.noted n) (r'.noted m) := by
  cases hn with
  | check hp hm => exact .ok (.after h hp hm)
  | lengths hlo hhi =>
    simp only [Rule.noted, hlo, hhi]
    refine Agree.bind (Agree.refl (fun _ => rfl) _) fun lo lo' hlo => ?_
    refine Agree.bind (Agree.refl (fun _ => rfl) _) fun hi hi' hhi => ?_
    subst hlo hhi
    cases h with
    | refl r => cases r <;> exact .ok (.refl _)
    | list _ _ h => exact .ok (.list lo hi h)
    | fixed h => exact .ok (.fixed h)
    | after h hp hm => exact .ok (.after h hp hm)

theorem Rule.Alike.foldlM_noted {C : Stock} {r r' : Rule} (h : r.Alike C r')
    {ns ms : List Note} (hns : List.Forall₂ (Note.Alike C) ns ms) :
    Agree (Rule.Alike C) (ns.foldlM Rule.noted r) (ms.foldlM Rule.noted r') := by
  induction hns generalizing r r' with
  | nil => exact .ok h
  | cons hn _ ih =>
    rw [List.foldlM_cons, List.foldlM_cons]
    exact Agree.bind (h.noted hn) fun _ _ h => ih h

namespace Annotation

variable {C : Stock}

mutual

/-- Annotations that are alike stand for rules that check alike. -/
theorem Alike.toRule : ∀ {a b : Annotation}, a.Alike C b →
    Agree (Rule.Alike C) a.toRule b.toRule
  | _, _, .refl _ => Agree.refl .refl _
  | _, _, .type h => by
    unfold Annotation.toRule
    rw [h.rule_eq]
    exact Agree.refl .refl _
  | _, _, .list h => h.toRule.bind fun _ _ hr => .ok (.list none none hr)
  | _, _, .tuple h => h.toRules.bind fun _ _ hrs => .ok (.fixed hrs)
  | _, _, .noted h hns => h.toRule.bind fun _ _ hr => hr.foldlM_noted hns

theorem AlikeAll.toRules : ∀ {as bs : List Annotation}, AlikeAll C as bs →
    Agree (Rule.AlikeAll C) (toRules as) (toRules bs)
  | _, _, .nil => .ok .nil
  | _, _, .cons h hs =>
    h.toRule.bind fun _ _ hr => hs.toRules.bind fun _ _ hrs => .ok (.cons hr hrs)

end

theorem Alike.rule {a b : Annotation} (h : a.Alike C b) :
    Agree (Rule.Alike C) a.rule b.rule := by
  unfold Annotation.rule
  rw [h.audit_eq]
  exact Agree.bind (Agree.refl (fun _ => rfl) _) fun _ _ _ => h.toRule

end Annotation

/-! ### Schemas that are equal -/

/-- The annotation for lists of an item within limits. -/
def Annotation.within (item : Annotation) (limits : Option Numeral × Option Numeral) : Annotation :=
  match limits with
  | (none, none) => .list item
  | (least, most) => .noted (.list item) [.lengths least most]

theorem Schema.annotation_array (l : Label) (s : Schema) (n lo hi : Option Numeral) :
    Schema.annotation (.array l s n lo hi) = (do
      let a ← s.annotation
      return a.asItem.within (lengthLimits n lo hi)) := by
  conv_lhs => unfold Schema.annotation
  congr
  funext a
  rcases lengthLimits n lo hi with ⟨_ | least, _ | most⟩ <;> rfl

/-- Equal bounds count the same number of items. -/
theorem boundCount_eq_of_same {n n' : Option Numeral} (same : sameBound n n' = true)
    (h : Stock.WholeBound n) (h' : Stock.WholeBound n') : boundCount n = boundCount n' := by
  cases n with
  | none =>
    cases n' with
    | none => rfl
    | some m' => simp [sameBound] at same
  | some m =>
    cases n' with
    | none => simp [sameBound] at same
    | some m' =>
      obtain ⟨i, hi⟩ := Option.isSome_iff_exists.mp (h m rfl)
      obtain ⟨j, hj⟩ := Option.isSome_iff_exists.mp (h' m' rfl)
      have ordering : m.compare? m' = some (compare i j) := by
        cases m <;> cases m' <;> simp_all [Numeral.compare?, Numeral.whole?]
      have equal : i = j := by
        simp only [sameBound, Numeral.same, ordering] at same
        simpa using same
      simp only [boundCount, Numeral.count, hi, hj, equal]

section

variable {C : Stock}

/-- Lists with equal limits are alike if their items are. -/
theorem Annotation.Alike.within {a b : Annotation} (h : a.Alike C b)
    {least least' most most' : Option Numeral} (hleast : sameBound least least' = true)
    (hmost : sameBound most most' = true) (countLeast : boundCount least = boundCount least')
    (countMost : boundCount most = boundCount most') :
    (a.within (least, most)).Alike C (b.within (least', most')) := by
  have one : List.Forall₂ (Note.Alike C) [.lengths least most] [.lengths least' most'] :=
    .cons (.lengths countLeast countMost) .nil
  cases least <;> cases least' <;> simp only [sameBound, Bool.false_eq_true] at hleast <;>
    cases most <;> cases most' <;> simp only [sameBound, Bool.false_eq_true] at hmost
  · exact .list h
  · exact .noted (.list h) one
  · exact .noted (.list h) one
  · exact .noted (.list h) one

mutual

/-- Equal schemas stand for annotations that are alike. -/
theorem Schema.annotation_agree : ∀ {s t : Schema},
    s.same t = true → s.isHashable = true → C.Holds s → C.Holds t →
    Agree (fun a b => a.Alike C b) s.annotation t.annotation
  | .bare .., t, same, _, _, _ => by
    cases t <;> simp only [Schema.same, Bool.false_eq_true] at same
    exact .error _
  | .primitive _ v, t, same, hashable, hs, ht => by
    cases t <;> simp only [Schema.same, Bool.false_eq_true] at same
    exact .ok (.type ⟨same, hashable, hs, ht⟩)
  | .any _, t, same, _, _, _ => by
    cases t <;> simp only [Schema.same, Bool.false_eq_true] at same
    exact .ok (.refl _)
  | .refined _ s p m, t, same, hashable, hs, ht => by
    cases t <;> simp only [Schema.same, Bool.false_eq_true, Bool.and_eq_true] at same
    simp only [Schema.isHashable, Bool.and_eq_true] at hashable
    obtain ⟨⟨sameBase, samePredicate⟩, sameMessage⟩ := same
    obtain ⟨⟨hashableBase, hashablePredicate⟩, -⟩ := hashable
    have predicates : C.SameType p _ := ⟨samePredicate, hashablePredicate, hs.2, ht.2⟩
    refine (Schema.annotation_agree sameBase hashableBase hs.1 ht.1).bind fun a b hab => ?_
    exact hab.note (.check predicates.askedAlike (text?_eq_of_same sameMessage))
  | .tuple _ ss, t, same, hashable, hs, ht => by
    cases t <;> simp only [Schema.same, Bool.false_eq_true] at same
    exact (annotations_agree same hashable hs ht).bind fun as bs h => .ok (.tuple h)
  | .array l s n lo hi, t, same, hashable, hs, ht => by
    cases t <;> simp only [Schema.same, Bool.false_eq_true] at same
    rename_i l' t n' lo' hi'
    obtain ⟨hsArray, hsItem, hn, hlo, hhi⟩ := hs
    obtain ⟨htArray, htItem, hn', hlo', hhi'⟩ := ht
    rcases Bool.or_eq_true_iff.mp same with same | same
    · rw [C.oneArray _ _ hsArray htArray same]
      exact Agree.refl .refl _
    · simp only [Bool.and_eq_true] at same
      obtain ⟨⟨⟨sameItem, sameLength⟩, sameLeast⟩, sameMost⟩ := same
      have countLength := boundCount_eq_of_same sameLength hn hn'
      have countLeast := boundCount_eq_of_same sameLeast hlo hlo'
      have countMost := boundCount_eq_of_same sameMost hhi hhi'
      rw [Schema.annotation_array, Schema.annotation_array]
      refine (Schema.annotation_agree sameItem hashable hsItem htItem).bind fun a b hab => ?_
      have items := hab.asItem
      cases n <;> cases n' <;> simp only [sameBound, Bool.false_eq_true] at sameLength
      · exact .ok (items.within sameLeast sameMost countLeast countMost)
      · exact .ok (items.within sameLength sameLength countLength countLength)
  | .function .., t, same, _, _, _ => by
    cases t <;> simp only [Schema.same, Bool.false_eq_true] at same
    exact .ok (.refl _)
  | .foreign _, t, same, _, _, _ => by
    cases t <;> simp only [Schema.same, Bool.false_eq_true] at same
    exact .error _

theorem annotations_agree : ∀ {ss ts : List Schema},
    sameSchemas ss ts = true → allHashableSchemas ss = true → C.HoldsAll ss → C.HoldsAll ts →
    Agree (fun as bs => Annotation.AlikeAll C as bs) (annotations ss) (annotations ts)
  | [], ts, same, _, _, _ => by
    cases ts with
    | nil => exact .ok .nil
    | cons t ts => simp [sameSchemas] at same
  | s :: ss, ts, same, hashable, hs, ht => by
    cases ts with
    | nil => simp [sameSchemas] at same
    | cons t ts =>
      simp only [sameSchemas, allHashableSchemas, Bool.and_eq_true] at same hashable
      refine (Schema.annotation_agree same.1 hashable.1 hs.1 ht.1).bind fun a b hab => ?_
      exact (annotations_agree same.2 hashable.2 hs.2 ht.2).bind fun as bs h =>
        .ok (.cons hab h)

end

/-- **Equal schemas check alike.** They come down to rules that give the same verdicts, or are
refused with the same fault. -/
theorem Schema.rule_agree {s t : Schema} (same : s.same t = true)
    (hashable : s.isHashable = true) (hs : C.Holds s) (ht : C.Holds t) :
    Agree (Rule.Alike C) s.rule t.rule := by
  refine (Schema.annotation_agree same hashable hs ht).bind fun a b hab => ?_
  have rules := hab.rule
  revert rules
  generalize a.rule = x
  generalize b.rule = y
  rintro (⟨h⟩ | ⟨e⟩)
  · exact .ok h
  · cases e with
    | unknownName => exact .ok (.refl _)
    | _ => exact .error _

end

end CallContract
