import CallContract.Proofs.Interchange

/-!
# What rules call

A rule calls the predicates that come after it, a function that stands in place of a type, and the
validators of annotations by which the engine checks values in a way of its own. All that the rule
of a schema calls comes from the schema (`Schema.rule_asksOnly`): descriptions of rules and names of
types bring in nothing that is called but such validators.
-/

namespace CallContract

/-! ### Results that have a property -/

/-- Whether a result, if there is one, has a property. -/
def Gives {α : Type} (P : α → Prop) (x : Except Fault α) : Prop := ∀ a, x = .ok a → P a

namespace Gives

variable {α β : Type} {P : α → Prop} {Q : β → Prop}

theorem ok {a : α} (h : P a) : Gives P (.ok a) := by
  rintro _ ⟨⟩
  exact h

theorem error (e : Fault) : Gives P (.error e) := fun _ h => by cases h

theorem bind {x : Except Fault α} {f : α → Except Fault β} (h : Gives P x)
    (next : ∀ a, P a → Gives Q (f a)) : Gives Q (x >>= f) := by
  intro b hb
  obtain ⟨a, ha, hb⟩ := bind_eq_ok.mp hb
  exact next a (h a ha) b hb

/-- Whatever the first step gives, the second has the property. -/
theorem after {x : Except Fault α} {f : α → Except Fault β} (next : ∀ a, Gives Q (f a)) :
    Gives Q (x >>= f) := by
  intro b hb
  obtain ⟨a, -, hb⟩ := bind_eq_ok.mp hb
  exact next a b hb

theorem mapError {x : Except Fault α} (h : Gives P x) (g : Fault → Fault) :
    Gives P (x.mapError g) := by
  cases x with
  | ok a => exact h
  | error e => exact .error _

end Gives

/-! ### Calls of a rule -/

mutual

/-- Whether all predicates, functions and validators that a rule calls have a property. -/
def Rule.AsksOnly (P : Value → Prop) : Rule → Prop
  | .optional r | .list r _ _ | .set r | .frozenset r | .variadic r | .limited r _ => r.AsksOnly P
  | .fixed rs => AskOnly P rs
  | .dict k v => k.AsksOnly P ∧ v.AsksOnly P
  | .after r p _ => r.AsksOnly P ∧ P p
  | .call _ f => P f
  | .own t => ∀ strict, P (t.validator strict)
  | _ => True

/-- Whether all that the rules of a list call has a property. -/
def AskOnly (P : Value → Prop) : List Rule → Prop
  | [] => True
  | r :: rs => r.AsksOnly P ∧ AskOnly P rs

end

/-- Whether all validators of the engine have a property. -/
def AllowsValidators (P : Value → Prop) : Prop :=
  ∀ (t : Value) (strict : Bool), P (t.validator strict)

section Silent

variable {P : Value → Prop}

theorem BaseType.rule_asksOnly (t : BaseType) : t.rule.AsksOnly P := by
  cases t <;> simp [BaseType.rule, Rule.AsksOnly]

namespace TypeText

theorem ruleOfName_asksOnly (s : String) : Gives (Rule.AsksOnly P) (ruleOfName s) := by
  unfold ruleOfName
  split
  all_goals first
    | exact .ok (BaseType.rule_asksOnly _)
    | exact .ok trivial
    | exact .error _
    | skip
  split <;> exact .error _

theorem ruleOfApplied_asksOnly (head : String) {args : List Rule} (h : AskOnly P args)
    (variadic : Bool) : Gives (Rule.AsksOnly P) (ruleOfApplied head args variadic) := by
  unfold ruleOfApplied
  split
  · exact .ok h.1
  · exact .ok h.1
  · exact .ok h.1
  · exact .ok h.1
  · exact .ok ⟨h.1, h.2.1⟩
  · exact .ok ⟨h.1, h.2.1⟩
  · exact .ok h.1
  · split
    · exact .ok h.1
    · exact .ok h
  · exact .error _

mutual

/-- Names of types bring in nothing that is called but validators. -/
theorem rule_asksOnly (allowed : AllowsValidators P) : ∀ t : TypeText,
    Gives (Rule.AsksOnly P) t.rule
  | .name s => ruleOfName_asksOnly s
  | .nothing => .ok trivial
  | .constant => .error _
  | .tuple items => .after fun _ => .error _
  | .composed parts => .after fun _ => .error _
  | .either a b => by
    rw [rule]
    refine (rule_asksOnly allowed a).bind fun r hr => (rule_asksOnly allowed b).bind fun t ht => ?_
    split
    · exact .ok trivial
    · exact .ok ht
    · exact .ok hr
    · exact .ok fun strict => allowed _ strict
  | .applied head args => by
    cases head with
    | name s =>
      have applied : Gives (Rule.AsksOnly P) (do
          let given := if endsInDots args then args.length - 1 else args.length
          let rs ← rulesUpTo given args
          ruleOfApplied s rs (endsInDots args)) :=
        (rulesUpTo_askOnly allowed _ args).bind fun rs hrs => ruleOfApplied_asksOnly s hrs _
      rw [rule]
      split
      · exact .after fun _ => applied
      · exact applied
    | _ => exact .error _

theorem rulesUpTo_askOnly (allowed : AllowsValidators P) : ∀ (n : Nat) (ts : List TypeText),
    Gives (AskOnly P) (rulesUpTo n ts)
  | 0, ts => by
    cases ts <;> exact .ok trivial
  | _ + 1, [] => .ok trivial
  | n + 1, t :: ts => (rule_asksOnly allowed t).bind fun _ hr =>
    (rulesUpTo_askOnly allowed n ts).bind fun _ hrs => .ok ⟨hr, hrs⟩

end

theorem ruleOfText_asksOnly (allowed : AllowsValidators P) (s : String) :
    Gives (Rule.AsksOnly P) (ruleOfText s) := by
  unfold ruleOfText
  split
  · exact rule_asksOnly allowed _
  · exact .error _

end TypeText

/-! ### Descriptions -/

/-- Whether all that the entries of a description would call has a property. -/
def Description.AsksOnly (P : Value → Prop) (d : Description) : Prop :=
  ∀ e ∈ d, Gives (Rule.AsksOnly P) e.2.rule ∧ ∀ rs, e.2.items = some rs → Gives (AskOnly P) rs

namespace Description

variable {d : Description}

theorem AsksOnly.lookup (h : d.AsksOnly P) {name : String} {e : Described}
    (found : d.lookup name = some e) : Gives (Rule.AsksOnly P) e.rule ∧
      ∀ rs, e.items = some rs → Gives (AskOnly P) rs := by
  obtain ⟨before, after, rfl, -⟩ := List.lookup_eq_some_iff.mp found
  exact h (name, e) (by simp)

theorem AsksOnly.part (h : d.AsksOnly P) (name : String) :
    Gives (Rule.AsksOnly P) (d.part name) := by
  unfold Description.part
  split
  · exact .ok trivial
  · next found => exact (h.lookup found).1

theorem AsksOnly.inner (h : d.AsksOnly P) (name : String) :
    Gives (Rule.AsksOnly P) (d.inner name) := by
  unfold Description.inner
  split
  · exact .error _
  · next found => exact (h.lookup found).1

theorem AsksOnly.tuple (allowed : AllowsValidators P) (h : d.AsksOnly P) (whole : Value) :
    Gives (Rule.AsksOnly P) (d.tuple whole) := by
  unfold Description.tuple
  cases found : d.lookup "items_schema" with
  | none => exact .error _
  | some e =>
    cases items : e.items with
    | none =>
      simp only [Option.bind_some, items]
      exact .error _
    | some rs =>
      simp only [Option.bind_some, items]
      refine ((h.lookup found).2 rs items).bind fun rules hrules => ?_
      split
      · exact .ok hrules
      · exact .ok hrules.1
      · exact .ok fun strict => allowed whole strict

theorem limited_asksOnly (r : Rule) (h : r.AsksOnly P) (ls : List Limit) :
    (limited r ls).AsksOnly P := by
  unfold limited
  split <;> exact h

/-- A description calls what its entries call, or its own validator. -/
theorem AsksOnly.rule (allowed : AllowsValidators P) (h : d.AsksOnly P) (whole : Value) :
    Gives (Rule.AsksOnly P) (d.rule whole) := by
  unfold Description.rule
  split
  · exact .error _
  split
  · exact .ok fun strict => allowed _ strict
  · split
    · exact .ok trivial
    · exact .ok trivial
    · exact .ok trivial
    · exact .after fun ls => .ok (limited_asksOnly .int trivial ls)
    · exact .after fun ls => .ok (limited_asksOnly .float trivial ls)
    · exact .after fun ls => .ok (limited_asksOnly .text trivial ls)
    · exact .after fun ls => .ok (limited_asksOnly .bytes trivial ls)
    · exact .ok trivial
    · unfold choices
      split
      · exact .ok trivial
      · exact .error _
    · exact (h.inner _).bind fun r hr => .ok hr
    · exact (h.part _).bind fun r hr => .after fun _ => .after fun _ => .ok hr
    · exact (h.part _).bind fun r hr => .ok hr
    · exact (h.part _).bind fun r hr => .ok hr
    · exact (h.part _).bind fun k hk => (h.part _).bind fun v hv => .ok ⟨hk, hv⟩
    · exact h.tuple allowed whole
    · exact .error _
    · exact .error _

end Description

mutual

/-- Descriptions of rules bring in nothing that is called but validators. -/
theorem describedRule_asksOnly (allowed : AllowsValidators P) : ∀ v : Value,
    Gives (Rule.AsksOnly P) v.describedRule
  | .dict _ es => by
    rw [Value.describedRule]
    exact (describedEntries_asksOnly allowed es).rule allowed _
  | .null | .bool _ | .int _ | .float _ | .nan _ | .text _ | .bytes _ | .list .. | .tuple ..
  | .set .. | .frozenset .. | .mode _ | .boundary _ | .type _ | .function _ | .form .. | .point ..
  | .token .. | .record .. | .schema _ | .contract _ | .settings .. | .pending .. | .other .. =>
    .error _

theorem describedRules_askOnly (allowed : AllowsValidators P) : ∀ vs : List Value,
    Gives (AskOnly P) (describedRules vs)
  | [] => .ok trivial
  | v :: vs => ((describedRule_asksOnly allowed v).mapError _).bind fun _ hr =>
    (describedRules_askOnly allowed vs).bind fun _ hrs => .ok ⟨hr, hrs⟩

theorem describedEntries_asksOnly (allowed : AllowsValidators P) :
    ∀ es : List (Value × Value), Description.AsksOnly P (describedEntries es)
  | [] => fun _ he => absurd he List.not_mem_nil
  | (k, v) :: es => by
    intro e he
    rcases List.mem_cons.mp he with rfl | he
    · refine ⟨(describedRule_asksOnly allowed v).mapError _, fun rs hrs => ?_⟩
      cases v with
      | list l vs =>
        obtain rfl := Option.some.inj hrs
        exact describedRules_askOnly allowed vs
      | _ => cases hrs
    · exact describedEntries_asksOnly allowed es e he

end

/-- Alternatives that are described call nothing but validators. -/
theorem alternatives?_askOnly (allowed : AllowsValidators P) {v : Value} {rs : List Rule}
    (found : v.alternatives? = some rs) : AskOnly P rs := by
  cases v with
  | dict l es =>
    simp only [Value.alternatives?] at found
    split at found
    · split at found
      · next items =>
        obtain rfl := Option.some.inj found
        obtain ⟨e, described, items⟩ := Option.bind_eq_some_iff.mp items
        exact ((describedEntries_asksOnly allowed es).lookup described).2 _ items _ rfl
      · cases found
    · cases found
  | _ => cases found

end Silent

/-! ### Types, annotations and schemas -/

theorem rules_askOnly {P : Value → Prop} {vs : List Value}
    (each : ∀ v ∈ vs, Gives (Rule.AsksOnly P) v.rule) : Gives (AskOnly P) (rules vs) := by
  induction vs with
  | nil => exact .ok trivial
  | cons v vs ih =>
    have first : Gives (Rule.AsksOnly P) v.rule := each v (List.mem_cons_self ..)
    have rest : Gives (AskOnly P) (rules vs) := ih fun w hw => each w (List.mem_cons_of_mem v hw)
    exact first.bind fun _ hr => rest.bind fun _ hrs => .ok ⟨hr, hrs⟩

/-- The rule for a form calls what the rules for its parts call, or its own validator. -/
theorem form_rule_asksOnly {P : Value → Prop} (allowed : AllowsValidators P) (l : Label) (f : Form)
    {xs : List Value} (each : ∀ x ∈ xs, Gives (Rule.AsksOnly P) x.rule) :
    Gives (Rule.AsksOnly P) (Value.form l f xs).rule := by
  have own (t : Value) : Gives (Rule.AsksOnly P) (.ok (.own t)) :=
    .ok fun strict => allowed t strict
  cases f with
  | list | set | frozenset =>
    cases xs with
    | nil => exact .ok trivial
    | cons v vs => exact (each v (by simp)).bind fun _ hr => .ok hr
  | marked =>
    cases xs with
    | nil => exact .error _
    | cons v vs =>
      rw [Value.rule]
      split
      · exact each v (by simp)
      · exact own _
  | union => exact .after fun _ => own _
  | literal | other => exact own _
  | validator => exact .error _
  | reference =>
    rcases xs with _ | ⟨v, _ | ⟨w, xs⟩⟩
    · exact .error _
    · exact each v (by simp)
    · exact .error _
  | optional | variadic =>
    rcases xs with _ | ⟨v, _ | ⟨w, xs⟩⟩
    · exact .error _
    · exact (each v (by simp)).bind fun _ hr => .ok hr
    · exact .error _
  | dict =>
    rcases xs with _ | ⟨k, _ | ⟨v, _ | ⟨w, xs⟩⟩⟩
    · exact .error _
    · exact .error _
    · exact (each k (by simp)).bind fun _ hk => (each v (by simp)).bind fun _ hv => .ok ⟨hk, hv⟩
    · exact .error _
  | fixed => exact (rules_askOnly each).bind fun _ hrs => .ok hrs

section Held

open Annotation (toRules note_type)

variable {C : Stock}

theorem Stock.holds_validator : AllowsValidators C.HoldsValue := fun _ _ => trivial

mutual

/-- The rule for a type calls functions in use only, and validators. -/
theorem Value.rule_asksOnly : ∀ v : Value, C.HoldsValue v →
    Gives (Rule.AsksOnly C.HoldsValue) v.rule
  | .null, _ => .ok trivial
  | .type t, _ => .ok t.rule_asksOnly
  | .text s, _ => TypeText.ruleOfText_asksOnly C.holds_validator s
  | .mode m, _ => TypeText.ruleOfText_asksOnly C.holds_validator m.word
  | .boundary b, _ => TypeText.ruleOfText_asksOnly C.holds_validator b.word
  | .dict l es, _ => by
    rw [Value.rule]
    exact describedRule_asksOnly C.holds_validator _
  | .function f, held => by
    rw [Value.rule]
    unfold Function.rule
    dsimp only
    split
    · exact .ok held
    · exact .error _
  | .form l f xs, held => by
    cases f with
    | validator => exact .error _
    | _ => exact form_rule_asksOnly C.holds_validator l _ (Values.rule_asksOnly xs held.2)
  | .bool _, _ | .int _, _ | .float _, _ | .nan _, _ | .bytes _, _ | .list .., _ | .tuple .., _
  | .set .., _ | .frozenset .., _ | .point .., _ | .token .., _ | .record .., _ | .schema _, _
  | .contract _, _ | .settings .., _ | .pending .., _ | .other .., _ => .error _

theorem Values.rule_asksOnly : ∀ xs : List Value, C.HoldsValues xs →
    ∀ x ∈ xs, Gives (Rule.AsksOnly C.HoldsValue) x.rule
  | [], _ => fun _ hx => absurd hx List.not_mem_nil
  | v :: vs, held =>
    List.forall_mem_cons.mpr ⟨v.rule_asksOnly held.1, Values.rule_asksOnly vs held.2⟩

end

mutual

/-- Whether the functions in the types and in the notes of an annotation are in use. -/
def Stock.HoldsAnnotation (C : Stock) : Annotation → Prop
  | .type v => C.HoldsValue v
  | .any | .callable => True
  | .list a => C.HoldsAnnotation a
  | .tuple as => C.HoldsAnnotations as
  | .noted a ns => C.HoldsAnnotation a ∧ ∀ p m, Note.check p m ∈ ns → C.HoldsValue p

/-- Whether this is so for all annotations of a list. -/
def Stock.HoldsAnnotations (C : Stock) : List Annotation → Prop
  | [] => True
  | a :: as => C.HoldsAnnotation a ∧ C.HoldsAnnotations as

end

theorem Rule.noted_asksOnly {P : Value → Prop} {r : Rule} (h : r.AsksOnly P) (n : Note)
    (asks : ∀ p m, n = .check p m → P p) : Gives (Rule.AsksOnly P) (r.noted n) := by
  cases n with
  | check p m => exact .ok ⟨h, asks p m rfl⟩
  | lengths least most =>
    refine .after fun lo => .after fun hi => ?_
    cases r <;> exact .ok h

mutual

/-- The rule for an annotation calls functions in use only. -/
theorem toRule_asksOnly : ∀ a : Annotation, C.HoldsAnnotation a →
    Gives (Rule.AsksOnly C.HoldsValue) a.toRule
  | .type v, held => v.rule_asksOnly held
  | .any, _ | .callable, _ => .ok trivial
  | .list a, held => (toRule_asksOnly a held).bind fun _ hr => .ok hr
  | .tuple as, held => (toRules_askOnly as held).bind fun _ hrs => .ok hrs
  | .noted a ns, ⟨held, checks⟩ => by
    have narrowed (r : Rule) (hr : r.AsksOnly C.HoldsValue) :
        Gives (Rule.AsksOnly C.HoldsValue) (ns.foldlM Rule.noted r) := by
      induction ns generalizing r with
      | nil => exact .ok hr
      | cons n ns ih =>
        rw [List.foldlM_cons]
        have first : Gives (Rule.AsksOnly C.HoldsValue) (r.noted n) :=
          Rule.noted_asksOnly hr n fun p m hn => checks p m (hn ▸ List.mem_cons_self ..)
        exact first.bind fun r' hr' =>
          ih (fun p m hp => checks p m (List.mem_cons_of_mem n hp)) r' hr'
    exact (toRule_asksOnly a held).bind narrowed

theorem toRules_askOnly : ∀ as : List Annotation, C.HoldsAnnotations as →
    Gives (AskOnly C.HoldsValue) (toRules as)
  | [], _ => .ok trivial
  | a :: as, held => (toRule_asksOnly a held.1).bind fun _ hr =>
    (toRules_askOnly as held.2).bind fun _ hrs => .ok ⟨hr, hrs⟩

end

theorem note_held {a : Annotation} (held : C.HoldsAnnotation a) {p : Value} (hp : C.HoldsValue p)
    (m : Value) : Gives C.HoldsAnnotation (a.note (.check p m)) := by
  have one {q m' : Value} (h : Note.check q m' ∈ [Note.check p m]) : C.HoldsValue q := by
    obtain ⟨rfl, -⟩ := Note.check.inj (List.mem_singleton.mp h)
    exact hp
  cases a with
  | noted b ns =>
    refine .ok ⟨held.1, fun q m' hq => ?_⟩
    rcases List.mem_append.mp hq with hq | hq
    · exact held.2 q m' hq
    · exact one hq
  | type v =>
    rw [note_type]
    split
    · exact .error _
    · split
      · exact .error _
      · exact .ok ⟨held, fun q m' => one⟩
  | any | callable | list | tuple => exact .ok ⟨held, fun q m' => one⟩

theorem asItem_held {a : Annotation} (held : C.HoldsAnnotation a) : C.HoldsAnnotation a.asItem := by
  cases a with
  | type v =>
    cases v with
    | tuple l xs =>
      cases xs with
      | nil => trivial
      | cons x xs => exact held.1
    | _ => exact held
  | _ => exact held

mutual

theorem annotation_held : ∀ S : Schema, C.Holds S → Gives C.HoldsAnnotation S.annotation
  | .bare .., _ => .error _
  | .foreign _, _ => .error _
  | .primitive _ v, held => .ok held
  | .any _, _ | .function .., _ => .ok trivial
  | .refined _ base p m, held =>
    (annotation_held base held.1).bind fun _ ha => note_held ha held.2 m
  | .tuple _ items, held => (annotations_held items held).bind fun _ has => .ok has
  | .array l element n lo hi, held => by
    rw [Schema.annotation_array]
    refine (annotation_held element held.2.1).bind fun a ha => .ok ?_
    have item := asItem_held ha
    have noCheck (p m : Value) (ls : Option Numeral × Option Numeral) :
        Note.check p m ∈ [Note.lengths ls.1 ls.2] → C.HoldsValue p := fun h => by
      cases List.mem_singleton.mp h
    rcases lengthLimits n lo hi with ⟨_ | least, _ | most⟩
    · exact item
    · exact ⟨item, fun p m => noCheck p m (_, _)⟩
    · exact ⟨item, fun p m => noCheck p m (_, _)⟩
    · exact ⟨item, fun p m => noCheck p m (_, _)⟩

theorem annotations_held : ∀ Ss : List Schema, C.HoldsAll Ss →
    Gives C.HoldsAnnotations (annotations Ss)
  | [], _ => .ok trivial
  | S :: Ss, held => (annotation_held S held.1).bind fun _ ha =>
    (annotations_held Ss held.2).bind fun _ has => .ok ⟨ha, has⟩

end

/-- **Rules call what is in use.** All predicates and functions that the rule of a schema in use
calls are in use. -/
theorem Schema.rule_asksOnly {S : Schema} (held : C.Holds S) :
    Gives (Rule.AsksOnly C.HoldsValue) S.rule := by
  refine (annotation_held S held).bind fun a ha => ?_
  have rule : Gives (Rule.AsksOnly C.HoldsValue) a.rule := .after fun _ => toRule_asksOnly a ha
  split
  · exact .ok trivial
  · exact rule

end Held

end CallContract
