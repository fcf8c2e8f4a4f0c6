import CallContract.Contract.Call
import CallContract.Proofs.Running

/-!
# What lists and tuples are promoted to

Wherever the schemas for some items are wanted, a list or tuple of them will do, and their items may
be schemas, annotations, nothing, or lists and tuples again. All the ways to hand them over come to
one schema, the tuple schema of the promoted items (`promotions_agree`).

What promotion makes is laid out as what it is made of. Places in nested lists and tuples are lists
of indices (`Value.at?`), and so are places in nested tuple schemas (`Schema.at?`): what stands at a
place is promoted where it stands (`at?_promote`). Only below a schema, which stands for itself,
there is anything else (`promote_at_cases`), so that no list or tuple is left as an annotation, and
neither is nothing.
-/

namespace CallContract

/-! ### Places -/

/-- The items of a list or tuple. -/
def Value.sequence? : Value → Option (List Value)
  | .list _ xs => some xs
  | .tuple _ xs => some xs
  | _ => none

/-- What stands at a place in nested lists and tuples. -/
def Value.at? : Value → List Nat → Option Value
  | v, [] => some v
  | v, i :: path => v.sequence?.bind fun xs => xs[i]?.bind fun x => x.at? path

/-- The items of a tuple schema. -/
def Schema.items? : Schema → Option (List Schema)
  | .tuple _ items => some items
  | _ => none

/-- What stands at a place in nested tuple schemas. -/
def Schema.at? : Schema → List Nat → Option Schema
  | S, [] => some S
  | S, i :: path => S.items?.bind fun items => items[i]?.bind fun T => T.at? path

theorem Value.at?_cons {v y : Value} {i : Nat} {path : List Nat} :
    v.at? (i :: path) = some y ↔
      ∃ xs x, v.sequence? = some xs ∧ xs[i]? = some x ∧ x.at? path = some y := by
  simp only [Value.at?, Option.bind_eq_some_iff]
  exact ⟨fun ⟨xs, held, x, item, rest⟩ => ⟨xs, x, held, item, rest⟩,
    fun ⟨xs, x, held, item, rest⟩ => ⟨xs, held, x, item, rest⟩⟩

theorem Schema.at?_cons {S T : Schema} {i : Nat} {path : List Nat} :
    S.at? (i :: path) = some T ↔
      ∃ items R, S.items? = some items ∧ items[i]? = some R ∧ R.at? path = some T := by
  simp only [Schema.at?, Option.bind_eq_some_iff]
  exact ⟨fun ⟨items, held, R, item, rest⟩ => ⟨items, R, held, item, rest⟩,
    fun ⟨items, R, held, item, rest⟩ => ⟨items, held, R, item, rest⟩⟩

/-- Whether a value is taken as an annotation where a schema is wanted: it is none of what stands
for something else. -/
structure Value.IsAnnotation (v : Value) : Prop where
  noSequence : v.sequence? = none
  something : v ≠ .null
  noSchema : ∀ S, v ≠ .schema S

/-- Whether a part of a schema has come with a schema that stands in nested lists and tuples. -/
def Value.Brings (v : Value) (path : List Nat) (S : Schema) : Prop :=
  ∃ before after T, path = before ++ after ∧ v.at? before = some (.schema T) ∧
    T.at? after = some S

theorem Value.Brings.below {v x : Value} {xs : List Value} {i : Nat} {path : List Nat} {S : Schema}
    (held : v.sequence? = some xs) (item : xs[i]? = some x) (brings : x.Brings path S) :
    v.Brings (i :: path) S := by
  obtain ⟨before, after, T, rfl, found, part⟩ := brings
  exact ⟨i :: before, after, T, rfl, Value.at?_cons.mpr ⟨xs, x, held, item, found⟩, part⟩

/-! ### Promotion -/

theorem Schema.tupleOf_eq (xs : List Value) :
    Schema.tupleOf xs = .tuple .fresh (xs.map promote) := by
  rw [tupleOf, promoteAll_eq_map]

theorem promote_of_sequence {v : Value} {xs : List Value} (held : v.sequence? = some xs) :
    promote v = Schema.tupleOf xs := by
  cases v <;> cases held <;> rfl

/-- A value is a schema, or a list or tuple, or it is promoted to a schema of an annotation. -/
theorem promote_cases (v : Value) :
    (∃ S, v = .schema S) ∨ (∃ xs, v.sequence? = some xs) ∨
      ∃ type : Value, type.IsAnnotation ∧ promote v = .primitive .fresh type := by
  cases v with
  | schema S => exact .inl ⟨S, rfl⟩
  | list l xs | tuple l xs => exact .inr (.inl ⟨xs, rfl⟩)
  | null => exact .inr (.inr ⟨.type .null, ⟨rfl, nofun, nofun⟩, rfl⟩)
  | _ =>
    refine .inr (.inr ⟨_, ?_, rfl⟩)
    exact ⟨rfl, nofun, nofun⟩

/-- What stands at a place is promoted where it stands. -/
theorem at?_promote {path : List Nat} {v y : Value} (found : v.at? path = some y) :
    (promote v).at? path = some (promote y) := by
  induction path generalizing v with
  | nil =>
    cases found
    rfl
  | cons i path ih =>
    obtain ⟨xs, x, held, item, rest⟩ := Value.at?_cons.mp found
    rw [promote_of_sequence held, Schema.tupleOf_eq, Schema.at?_cons]
    exact ⟨_, promote x, rfl, by rw [List.getElem?_map, item]; rfl, ih rest⟩

/-- There is nothing else in what is made, except for the parts of schemas that stand for
themselves. -/
theorem promote_at_cases {path : List Nat} {v : Value} {S : Schema}
    (found : (promote v).at? path = some S) :
    (∃ y, v.at? path = some y ∧ S = promote y) ∨ v.Brings path S := by
  induction path generalizing v with
  | nil =>
    cases found
    exact .inl ⟨v, rfl, rfl⟩
  | cons i path ih =>
    obtain ⟨T, rfl⟩ | ⟨xs, held⟩ | ⟨type, -, made⟩ := promote_cases v
    · rw [promote_schema] at found
      exact .inr ⟨[], i :: path, T, rfl, rfl, found⟩
    · rw [promote_of_sequence held, Schema.tupleOf_eq, Schema.at?_cons] at found
      obtain ⟨_, _, ⟨⟩, item, rest⟩ := found
      rw [List.getElem?_map, Option.map_eq_some_iff] at item
      obtain ⟨x, item, rfl⟩ := item
      obtain ⟨y, at_y, rfl⟩ | brings := ih rest
      · exact .inl ⟨y, Value.at?_cons.mpr ⟨xs, x, held, item, at_y⟩, rfl⟩
      · exact .inr (brings.below held item)
    · rw [made] at found
      cases found

/-- What is taken as an annotation is neither a list or tuple nor nothing, unless it has come with
a schema. -/
theorem annotation_of_promote {path : List Nat} {v type : Value} {l : Label}
    (found : (promote v).at? path = some (.primitive l type)) :
    type.IsAnnotation ∨ v.Brings path (.primitive l type) := by
  obtain ⟨y, at_y, made⟩ | brings := promote_at_cases found
  · obtain ⟨S, rfl⟩ | ⟨xs, held⟩ | ⟨type', annotation, made'⟩ := promote_cases y
    · rw [promote_schema] at made
      subst made
      exact .inr ⟨path, [], _, (List.append_nil _).symm, at_y, rfl⟩
    · rw [promote_of_sequence held] at made
      cases made
    · rw [made'] at made
      cases made
      exact .inl annotation
  · exact .inr brings

/-! ### The ways to hand over schemas -/

/-- **All ways to hand over schemas agree.** Given the schemas of some items in a list or tuple, or
one by one, a check, a schema for functions, a contract that is made at once and a contract that is
built in steps come to the same: the tuple schema that has the promoted items in their order. What
the items are made of, however deep, is promoted where it stands. What is left as an annotation then
is neither a list or tuple nor nothing, except in schemas that were given as such. Promoting the
result or the list of its items makes it again. -/
theorem promotions_agree {v : Value} {xs : List Value} (held : v.sequence? = some xs) :
    let S := Schema.tupleOf xs
    (promote v = S ∧
      (∀ returns, (Value.schema (Schema.functionOf v returns)).ask "args" = .ok (.schema S)) ∧
      (∀ returns s, ∃ c, (Contract.make (some v) returns .null .null).exec s =
          (.ok (.contract c), s) ∧
        (Value.contract c).ask Boundary.args.schemaName = .ok (.schema S)) ∧
      (∀ c : Contract,
        (Value.contract (c.withArgs xs)).ask Boundary.args.schemaName = .ok (.schema S)) ∧
      ∀ apply value strict,
        validate apply v value strict = validate apply (.schema S) value strict) ∧
    S.items? = some (xs.map promote) ∧
    (∀ path y, v.at? path = some y → S.at? path = some (promote y)) ∧
    (∀ path l type, S.at? path = some (.primitive l type) →
      type.IsAnnotation ∨ v.Brings path (.primitive l type)) ∧
    promote (.schema S) = S ∧
    ∀ w : Value, w.sequence? = some ((xs.map promote).map Value.schema) → promote w = S := by
  intro S
  have promoted : promote v = S := promote_of_sequence held
  refine ⟨⟨promoted, fun returns => ?_, fun returns s => ?_, fun c => rfl,
    fun apply value strict => ?_⟩, ?_, fun path y found => ?_, fun path l type found => ?_,
    promote_schema S, fun w again => ?_⟩
  · have args : Schema.functionOf v returns = .function .fresh S (promote returns) := by
      rw [Schema.functionOf, promoted]
      rfl
    rw [args]
    rfl
  · have schema : Contract.argsSchema v = .ok S := by
      cases v <;> cases held <;> rfl
    unfold Contract.make
    simp only [schema, Run.lift_ok, pure_bind]
    cases returns <;> exact ⟨_, rfl, rfl⟩
  · rw [validate, validate, promoted, promote_schema]
  · exact congrArg Schema.items? (Schema.tupleOf_eq xs)
  · rw [← promoted]
    exact at?_promote found
  · rw [← promoted] at found
    exact annotation_of_promote found
  · have same : ((xs.map promote).map Value.schema).map promote = xs.map promote := by
      simp [Function.comp_def]
    rw [promote_of_sequence again, Schema.tupleOf_eq, same, ← Schema.tupleOf_eq]

/-- Schemas for some items: an annotation, nothing, and a tuple of a schema and an empty list. -/
def mixedItems : List Value :=
  [.type .int, .null, .tuple .fresh [.schema Schema.emptyTuple, .list .fresh []]]

theorem promotions_agree_mixedItems :
    let v : Value := .list .fresh mixedItems
    let S := Schema.tupleOf mixedItems
    v.sequence? = some mixedItems ∧
      (Value.schema (Schema.functionOf v (.type .int))).ask "args" = .ok (.schema S) ∧
      S.at? [1] = some (.primitive .fresh (.type .null)) ∧
      S.at? [2, 0] = some Schema.emptyTuple ∧ S.at? [2, 1] = some (.tuple .fresh []) := by
  intro v S
  have held : v.sequence? = some mixedItems := rfl
  obtain ⟨⟨-, functions, -⟩, -, places, -⟩ := promotions_agree held
  refine ⟨held, functions (.type .int), places [1] .null rfl, ?_, ?_⟩
  · exact (places [2, 0] (.schema Schema.emptyTuple) rfl).trans (congrArg some (promote_schema _))
  · exact places [2, 1] (.list .fresh []) rfl

end CallContract
