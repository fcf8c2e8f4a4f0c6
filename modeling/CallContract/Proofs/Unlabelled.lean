import CallContract.Proofs.Distinct

/-!
# Values without labels

A container that is made anew differs from the old one in its label only. `Value.unlabelled` takes
away the labels of containers at all depths: what is left of a value is what it holds, and in which
order. Equality does not look at these labels (`same_unlabelled`), so two values that are alike
without labels are equal to the same values (`same_eq_of_unlabelled_eq`).
-/

namespace CallContract

mutual

/-- A value without the labels of the containers in it. -/
def Value.unlabelled : Value → Value
  | .list _ xs => .list .fresh (unlabelledAll xs)
  | .tuple _ xs => .tuple .fresh (unlabelledAll xs)
  | .set _ xs => .set .fresh (unlabelledAll xs)
  | .frozenset _ xs => .frozenset .fresh (unlabelledAll xs)
  | .dict _ es => .dict .fresh (unlabelledEntries es)
  | v => v

/-- The values of a list without labels. -/
def unlabelledAll : List Value → List Value
  | [] => []
  | x :: xs => x.unlabelled :: unlabelledAll xs

/-- The entries of a dictionary without labels. -/
def unlabelledEntries : List (Value × Value) → List (Value × Value)
  | [] => []
  | (k, x) :: es => (k.unlabelled, x.unlabelled) :: unlabelledEntries es

end

theorem unlabelledAll_eq_map (xs : List Value) : unlabelledAll xs = xs.map Value.unlabelled := by
  induction xs with
  | nil => rfl
  | cons x xs ih => rw [unlabelledAll, ih, List.map_cons]

theorem unlabelledEntries_eq_map (es : List (Value × Value)) :
    unlabelledEntries es = es.map fun e => (e.1.unlabelled, e.2.unlabelled) := by
  induction es with
  | nil => rfl
  | cons e es ih =>
    obtain ⟨k, x⟩ := e
    rw [unlabelledEntries, ih, List.map_cons]

@[simp] theorem numeral?_unlabelled (v : Value) : v.unlabelled.numeral? = v.numeral? := by
  cases v <;> rfl

@[simp] theorem text?_unlabelled (v : Value) : v.unlabelled.text? = v.text? := by
  cases v <;> rfl

/-! ### Equality on the right -/

mutual

/-- What a value equals does not depend on the labels of the other. -/
theorem same_unlabelled_right : ∀ v w : Value, v.same w.unlabelled = v.same w
  | .null, w | .nan _, w | .bytes _, w | .point .., w | .token .., w | .record .., w | .type _, w
  | .form .., w | .schema _, w | .contract _, w | .function _, w | .settings .., w
  | .pending .., w | .other .., w => by
    rw [Value.same.eq_def, Value.same.eq_def _ w]
    cases w <;> rfl
  | .bool b, w | .int i, w | .float d, w | .text s, w | .mode m, w | .boundary b, w => by
    simp only [Value.same, numeral?_unlabelled, text?_unlabelled]
  | .list l xs, w => by
    cases w <;> simp only [Value.unlabelled, Value.same]
    rw [unlabelledAll_eq_map, sameItems_unlabelled_right]
  | .tuple l xs, w => by
    cases w <;> simp only [Value.unlabelled, Value.same]
    rw [unlabelledAll_eq_map, sameItems_unlabelled_right]
  | .set l xs, w | .frozenset l xs, w => by
    cases w <;> simp only [Value.unlabelled, Value.same]
    all_goals rw [unlabelledAll_eq_map, List.length_map, itemsAmong_unlabelled_right]
  | .dict l es, w => by
    cases w <;> simp only [Value.unlabelled, Value.same]
    rw [unlabelledEntries_eq_map, List.length_map, entriesAmong_unlabelled_right]

theorem sameItems_unlabelled_right : ∀ xs ys : List Value,
    sameItems xs (ys.map Value.unlabelled) = sameItems xs ys
  | [], ys => by cases ys <;> simp only [List.map_nil, List.map_cons, sameItems, List.isEmpty]
  | x :: xs, [] => by simp only [List.map_nil, sameItems]
  | x :: xs, y :: ys => by
    simp only [List.map_cons, sameItems]
    rw [same_unlabelled_right x y, sameItems_unlabelled_right xs ys]

theorem itemsAmong_unlabelled_right : ∀ xs ys : List Value,
    itemsAmong xs (ys.map Value.unlabelled) = itemsAmong xs ys
  | [], ys => by simp only [itemsAmong]
  | x :: xs, ys => by
    have first : (fun y => x.same y) ∘ Value.unlabelled = fun y => x.same y :=
      funext fun y => same_unlabelled_right x y
    simp only [itemsAmong, List.any_map, first, itemsAmong_unlabelled_right xs ys]

theorem entriesAmong_unlabelled_right : ∀ es fs : List (Value × Value),
    entriesAmong es (fs.map fun e => (e.1.unlabelled, e.2.unlabelled)) = entriesAmong es fs
  | [], fs => by simp only [entriesAmong]
  | (k, x) :: es, fs => by
    have key (w : Value) : k.same w.unlabelled = k.same w := same_unlabelled_right k w
    have value (w : Value) : x.same w.unlabelled = x.same w := same_unlabelled_right x w
    simp only [entriesAmong, List.any_map, Function.comp_def, key, value,
      entriesAmong_unlabelled_right es fs]

end

/-! ### Equality on the left -/

mutual

/-- What a value equals does not depend on its own labels. -/
theorem same_unlabelled : ∀ v w : Value, v.unlabelled.same w = v.same w
  | .list l xs, w | .tuple l xs, w => by
    cases w <;> simp only [Value.unlabelled, Value.same]
    rw [sameItems_unlabelled]
  | .set l xs, w | .frozenset l xs, w => by
    cases w <;> simp only [Value.unlabelled, Value.same]
    all_goals rw [itemsAmong_unlabelled, unlabelledAll_eq_map, List.length_map]
  | .dict l es, w => by
    cases w <;> simp only [Value.unlabelled, Value.same]
    rw [entriesAmong_unlabelled, unlabelledEntries_eq_map, List.length_map]
  | .null, _ | .bool _, _ | .int _, _ | .float _, _ | .nan _, _ | .text _, _ | .bytes _, _
  | .mode _, _ | .boundary _, _ | .point .., _ | .token .., _ | .record .., _ | .type _, _
  | .form .., _ | .schema _, _ | .contract _, _ | .function _, _ | .settings .., _
  | .pending .., _ | .other .., _ => rfl

theorem sameItems_unlabelled : ∀ xs ys : List Value,
    sameItems (unlabelledAll xs) ys = sameItems xs ys
  | [], _ => rfl
  | x :: xs, [] => by simp only [unlabelledAll, sameItems]
  | x :: xs, y :: ys => by
    simp only [unlabelledAll, sameItems]
    rw [same_unlabelled x y, sameItems_unlabelled xs ys]

theorem itemsAmong_unlabelled : ∀ xs ys : List Value,
    itemsAmong (unlabelledAll xs) ys = itemsAmong xs ys
  | [], _ => rfl
  | x :: xs, ys => by
    have first (y : Value) : x.unlabelled.same y = x.same y := same_unlabelled x y
    simp only [unlabelledAll, itemsAmong, first, itemsAmong_unlabelled xs ys]

theorem entriesAmong_unlabelled : ∀ es fs : List (Value × Value),
    entriesAmong (unlabelledEntries es) fs = entriesAmong es fs
  | [], _ => rfl
  | (k, x) :: es, fs => by
    have key (w : Value) : k.unlabelled.same w = k.same w := same_unlabelled k w
    have value (w : Value) : x.unlabelled.same w = x.same w := same_unlabelled x w
    simp only [unlabelledEntries, entriesAmong, key, value, entriesAmong_unlabelled es fs]

end

/-- Values that are alike without labels equal the same values. -/
theorem same_eq_of_unlabelled_eq {v w v' w' : Value} (h : v.unlabelled = v'.unlabelled)
    (h' : w.unlabelled = w'.unlabelled) : v.same w = v'.same w' := by
  calc v.same w = v.unlabelled.same w.unlabelled := by
        rw [same_unlabelled_right, same_unlabelled]
    _ = v'.unlabelled.same w'.unlabelled := by rw [h, h']
    _ = v'.same w' := by rw [same_unlabelled_right, same_unlabelled]

/-- Whether values differ does not depend on their labels. -/
theorem Differ.of_unlabelled {xs ys : List Value}
    (h : xs.map Value.unlabelled = ys.map Value.unlabelled) (differ : Differ ys) : Differ xs := by
  have pairs (zs : List Value) :
      Differ zs ↔ (zs.map Value.unlabelled).Pairwise fun x y => x.same y = false := by
    rw [List.pairwise_map]
    simp only [same_unlabelled, same_unlabelled_right]
    rfl
  rw [pairs, h, ← pairs]
  exact differ

end CallContract
