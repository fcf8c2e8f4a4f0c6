import CallContract.Proofs.Interchange
import Mathlib.Tactic.SplitIfs

/-!
# How rules are put together

The annotation of a schema keeps all notes on a type in one list, however the schemas were nested.
This module shows that nothing is lost by that: the rule of a schema is made from the rules of its
parts, one step for each sort of schema. A refinement comes after the rule of what it refines, the
limits of an array schema go into the rule of a list, and a tuple schema has the rules of its items.
-/

namespace CallContract

/-- The rule that a schema is translated to. The name of a type has to be known. -/
def Schema.translation (s : Schema) : Except Fault Rule := s.annotation >>= Annotation.rule

/-- Apart from schemas with unknown names, the translation is the rule of the adapter. -/
theorem Schema.translation_of_rule {s : Schema} {r : Rule} (h : s.rule = .ok r)
    (resolved : r ≠ .unresolved) : s.translation = .ok r := by
  obtain ⟨a, ha, h⟩ := bind_eq_ok.mp h
  rw [Schema.translation, ha]
  show a.rule = .ok r
  split at h
  · exact absurd (Except.ok.inj h).symm resolved
  · exact h

namespace Annotation

variable {a a' : Annotation} {n : Note} {r : Rule}

theorem rule_eq_ok : a.rule = .ok r ↔ a.audit = .ok () ∧ a.toRule = .ok r := by
  unfold Annotation.rule
  rw [bind_eq_ok]
  exact ⟨fun ⟨_, ha, hr⟩ => ⟨ha, hr⟩, fun ⟨ha, hr⟩ => ⟨(), ha, hr⟩⟩

/-- A note is the last thing that narrows a rule. -/
theorem toRule_note (h : a.note n = .ok a') : a'.toRule = a.toRule >>= fun r => r.noted n := by
  have alone (b : Annotation) : toRule (.noted b [n]) = b.toRule >>= fun r => r.noted n := by
    simp only [toRule, List.foldlM_cons, List.foldlM_nil, bind_pure]
  cases a with
  | noted b ns =>
    obtain rfl := Except.ok.inj h
    simp only [toRule, List.foldlM_append, List.foldlM_cons, List.foldlM_nil, bind_pure, bind_assoc]
  | type v =>
    rw [note_type] at h
    split_ifs at h
    obtain rfl := Except.ok.inj h
    exact alone (.type v)
  | any =>
    obtain rfl := Except.ok.inj h
    exact alone .any
  | callable =>
    obtain rfl := Except.ok.inj h
    exact alone .callable
  | list b =>
    obtain rfl := Except.ok.inj h
    exact alone (.list b)
  | tuple bs =>
    obtain rfl := Except.ok.inj h
    exact alone (.tuple bs)

/-- Limits go into the rule of a list. -/
theorem toRule_within (limits : Option Numeral × Option Numeral) :
    (a.within limits).toRule = (do
      let r ← a.toRule
      let least ← boundCount limits.1
      let most ← boundCount limits.2
      return .list r least most) := by
  obtain ⟨least, most⟩ := limits
  have noted : toRule (.noted (.list a) [.lengths least most]) = (do
      let r ← a.toRule
      let least ← boundCount least
      let most ← boundCount most
      return .list r least most) := by
    simp only [toRule, bind_assoc, pure_bind, List.foldlM_cons, List.foldlM_nil, bind_pure,
      Rule.noted]
  rcases least with _ | least
  · rcases most with _ | most
    · simp only [within, toRule, boundCount]
      rfl
    · exact noted
  · exact noted

/-- A note does not change what is asked of the types of an annotation. -/
theorem audit_note (h : a.note n = .ok a') : a'.audit = a.audit := by
  unfold note at h
  split at h
  · obtain rfl := Except.ok.inj h
    rfl
  · cases h
  · split at h
    · cases h
    · obtain rfl := Except.ok.inj h
      rfl
  · obtain rfl := Except.ok.inj h
    rfl

/-- Only a bare tuple of types does not stay as it is as an item. -/
theorem tuple_of_asItem (h : a.asItem ≠ a) : ∃ l types, a = .type (.tuple l types) := by
  unfold asItem at h
  split at h
  · exact ⟨_, _, rfl⟩
  · exact ⟨_, _, rfl⟩
  · exact absurd rfl h

theorem audit_within (limits : Option Numeral × Option Numeral) :
    (a.within limits).audit = a.audit := by
  rcases limits with ⟨_ | least, _ | most⟩ <;> rfl

end Annotation

namespace Schema

open Annotation (rule_eq_ok toRule_note toRule_within audit_note audit_within)

variable {l : Label} {r : Rule}

/-- A translation is the rule of the adapter. -/
theorem rule_of_annotation {S : Schema} {a : Annotation} (ha : S.annotation = .ok a)
    (hr : a.rule = .ok r) : S.rule = .ok r := by
  rw [Schema.rule, ha]
  dsimp only [Bind.bind, Except.bind]
  rw [hr]

theorem rule_of_translation {S : Schema} (h : S.translation = .ok r) : S.rule = .ok r := by
  obtain ⟨a, ha, hr⟩ := bind_eq_ok.mp h
  exact rule_of_annotation ha hr

/-- The rule of a refinement comes after that of what is refined. -/
theorem translation_refined {base : Schema} {p m : Value}
    (h : (Schema.refined l base p m).translation = .ok r) :
    ∃ r₀, base.translation = .ok r₀ ∧ r = .after r₀ p m := by
  obtain ⟨a', ha', hr⟩ := bind_eq_ok.mp h
  obtain ⟨a, ha, noted⟩ := bind_eq_ok.mp ha'
  obtain ⟨audit, rule⟩ := rule_eq_ok.mp hr
  rw [audit_note noted] at audit
  rw [toRule_note noted] at rule
  obtain ⟨r₀, hr₀, rule⟩ := bind_eq_ok.mp rule
  refine ⟨r₀, ?_, (Except.ok.inj rule).symm⟩
  rw [translation, ha]
  exact rule_eq_ok.mpr ⟨audit, hr₀⟩

theorem translations_of_annotations {items : List Schema} {as : List Annotation} {rs : List Rule}
    (annotated : annotations items = .ok as) (audit : Annotation.auditAll as = .ok ())
    (rules : Annotation.toRules as = .ok rs) :
    List.Forall₂ (fun S r => Schema.translation S = .ok r) items rs := by
  induction items generalizing as rs with
  | nil =>
    obtain rfl := Except.ok.inj annotated
    obtain rfl := Except.ok.inj rules
    exact .nil
  | cons S items ih =>
    obtain ⟨a, ha, annotated⟩ := bind_eq_ok.mp annotated
    obtain ⟨others, hothers, annotated⟩ := bind_eq_ok.mp annotated
    obtain rfl := Except.ok.inj annotated
    obtain ⟨_, auditFirst, auditOthers⟩ := bind_eq_ok.mp audit
    obtain ⟨r, hr, rules⟩ := bind_eq_ok.mp rules
    obtain ⟨rs', hrs', rules⟩ := bind_eq_ok.mp rules
    obtain rfl := Except.ok.inj rules
    refine .cons ?_ (ih hothers auditOthers hrs')
    rw [translation, ha]
    exact rule_eq_ok.mpr ⟨auditFirst, hr⟩

/-- The rule of a tuple schema has the rules of its items. -/
theorem translation_tuple {items : List Schema} (h : (Schema.tuple l items).translation = .ok r) :
    ∃ rs, List.Forall₂ (fun S r => Schema.translation S = .ok r) items rs ∧ r = .fixed rs := by
  obtain ⟨a, ha, hr⟩ := bind_eq_ok.mp h
  obtain ⟨as, annotated, ha⟩ := bind_eq_ok.mp ha
  obtain rfl := Except.ok.inj ha
  obtain ⟨audit, rule⟩ := rule_eq_ok.mp hr
  obtain ⟨rs, rules, rule⟩ := bind_eq_ok.mp rule
  exact ⟨rs, translations_of_annotations annotated audit rules, (Except.ok.inj rule).symm⟩

/-- Only a schema of a type has a type as its annotation. -/
theorem primitive_of_annotation {S : Schema} {type : Value} (h : S.annotation = .ok (.type type)) :
    ∃ l, S = .primitive l type := by
  cases S with
  | primitive l type' =>
    obtain rfl := Annotation.type.inj (Except.ok.inj h)
    exact ⟨l, rfl⟩
  | refined l base p m =>
    obtain ⟨a, -, noted⟩ := bind_eq_ok.mp h
    unfold Annotation.note at noted
    split at noted <;> first | cases noted | skip
    split at noted <;> cases noted
  | tuple l items =>
    obtain ⟨as, -, h⟩ := bind_eq_ok.mp h
    cases h
  | array l element n lo hi =>
    rw [annotation_array] at h
    obtain ⟨a, -, h⟩ := bind_eq_ok.mp h
    rcases limits : lengthLimits n lo hi with ⟨_ | least, _ | most⟩ <;> rw [limits] at h <;> cases h
  | any | bare | function | foreign => cases h

/-- The rule of an array schema is that of a list, with the bounds as numbers of items. The items
have the rule of the element, unless that is a bare tuple of types, of which only one counts. -/
theorem translation_array {element : Schema} {n lo hi : Option Numeral}
    (h : (Schema.array l element n lo hi).translation = .ok r) :
    ∃ r₀ least most, boundCount (lengthLimits n lo hi).1 = .ok least ∧
      boundCount (lengthLimits n lo hi).2 = .ok most ∧ r = .list r₀ least most ∧
      (element.translation = .ok r₀ ∨
        ∃ l l' types, element = .primitive l (.tuple l' types) ∧
          (.type (.tuple l' types) : Annotation).asItem.toRule = .ok r₀) := by
  obtain ⟨a', ha', hr⟩ := bind_eq_ok.mp h
  rw [annotation_array] at ha'
  obtain ⟨a, ha, ha'⟩ := bind_eq_ok.mp ha'
  obtain rfl := Except.ok.inj ha'
  obtain ⟨audit, rule⟩ := rule_eq_ok.mp hr
  rw [audit_within] at audit
  rw [toRule_within] at rule
  obtain ⟨r₀, item, rule⟩ := bind_eq_ok.mp rule
  obtain ⟨least, hleast, rule⟩ := bind_eq_ok.mp rule
  obtain ⟨most, hmost, rule⟩ := bind_eq_ok.mp rule
  refine ⟨r₀, least, most, hleast, hmost, (Except.ok.inj rule).symm, ?_⟩
  by_cases same : a.asItem = a
  · rw [same] at audit item
    left
    rw [translation, ha]
    exact rule_eq_ok.mpr ⟨audit, item⟩
  · right
    obtain ⟨l', types, rfl⟩ := Annotation.tuple_of_asItem same
    obtain ⟨l, rfl⟩ := primitive_of_annotation ha
    exact ⟨l, l', types, rfl, item⟩

theorem translation_primitive {v : Value} (h : (Schema.primitive l v).translation = .ok r) :
    v.rule = .ok r := by
  obtain ⟨a, ha, hr⟩ := bind_eq_ok.mp h
  obtain rfl := Except.ok.inj ha
  exact (rule_eq_ok.mp hr).2

end Schema

/-! ### A function in place of a type -/

/-- A function that puts one more item behind those that it is given. -/
def stretchDefinition : Definition where
  kind := .function
  name := "h"
  ownName := "h"
  path := "h"
  parameters := [required "xs" .variadic]
  body := .binary .add (.var "xs") (.tuple [.const (.int 1)])
  scope := []
  doc := .null
  home := .text homeName
  annotations := .dict .fresh []
  attributes := []

/-- That function as a value. -/
def stretch : Value := .function (.defined Label.firstFree stretchDefinition)

/-- Any function like that takes what it is given in place of a type. -/
theorem variadic_rule (body : Expr) :
    let f := Function.defined Label.firstFree { stretchDefinition with body }
    (Schema.primitive .fresh (.function f)).rule =
      .ok (.call [required "xs" .variadic] (.function f)) := by
  intro f
  have signature : f.signature? = some [required "xs" .variadic] := by
    rw [Function.signature?, Definition.signature?_plain _ rfl]
    rfl
  have rule : (Value.function f).rule = .ok (.call [required "xs" .variadic] (.function f)) := by
    rw [Value.rule, Function.rule, signature]
    rfl
  have audit : Annotation.auditType (.function f) = .ok () := by
    unfold Annotation.auditType
    rw [rule]
  have whole : (.type (.function f) : Annotation).rule =
      .ok (.call [required "xs" .variadic] (.function f)) :=
    Annotation.rule_eq_ok.mpr ⟨audit, rule⟩
  exact Schema.rule_of_annotation (by rw [Schema.annotation]) whole

theorem stretch_rule :
    (Schema.primitive .fresh stretch).rule = .ok (.call [required "xs" .variadic] stretch) :=
  variadic_rule stretchDefinition.body

end CallContract
