import CallContract.Value.Equality
import Mathlib.Data.List.Pairwise

/-!
# Members and keys that differ

A set has no two equal members and a dictionary no two equal keys, so both are made by putting in
one thing after another. What is made in this way has no equal members or keys, and to make it once
more changes nothing.
-/

namespace CallContract

/-- Whether no value of a list equals a later one. -/
def Differ (xs : List Value) : Prop := xs.Pairwise fun x y => x.same y = false

/-! ### Members of sets -/

/-- Put a member in front of those before, unless an equal one is among them. -/
def addMember (seen : List Value) (x : Value) : List Value :=
  if seen.any (fun y => y.same x) then seen else x :: seen

theorem distinct_eq_foldl (xs : List Value) : distinct xs = (xs.foldl addMember []).reverse := rfl

theorem addMember_differ {seen : List Value} (h : Differ seen.reverse) (x : Value) :
    Differ (addMember seen x).reverse := by
  unfold addMember
  split
  · exact h
  · next new =>
    rw [List.reverse_cons]
    refine List.pairwise_append.mpr ⟨h, List.pairwise_singleton .., fun y hy z hz => ?_⟩
    obtain rfl := List.mem_singleton.mp hz
    have := List.any_eq_false.mp (Bool.eq_false_iff.mpr new) y (List.mem_reverse.mp hy)
    exact Bool.eq_false_iff.mpr this

/-- Members that are put in one after another differ. -/
theorem distinct_differ (xs : List Value) : Differ (distinct xs) := by
  have run (xs seen : List Value) (h : Differ seen.reverse) :
      Differ (xs.foldl addMember seen).reverse := by
    induction xs generalizing seen with
    | nil => exact h
    | cons x xs ih => exact ih _ (addMember_differ h x)
  exact run xs [] .nil

/-- Members that differ are all put in. -/
theorem distinct_of_differ {xs : List Value} (h : Differ xs) : distinct xs = xs := by
  have run (xs seen : List Value) (h : Differ (seen.reverse ++ xs)) :
      (xs.foldl addMember seen).reverse = seen.reverse ++ xs := by
    induction xs generalizing seen with
    | nil => simp
    | cons x xs ih =>
      have new : seen.any (fun y => y.same x) = false := by
        refine List.any_eq_false.mpr fun y hy => ?_
        have differ := (List.pairwise_append.mp h).2.2 y (List.mem_reverse.mpr hy) x
        exact Bool.eq_false_iff.mp (differ (List.mem_cons_self ..))
      have added : addMember seen x = x :: seen := by rw [addMember, new, if_neg Bool.false_ne_true]
      rw [List.foldl_cons, added, ih _ (by simpa using h)]
      simp
  exact run xs [] h

theorem distinct_distinct (xs : List Value) : distinct (distinct xs) = distinct xs :=
  distinct_of_differ (distinct_differ xs)

theorem mem_of_mem_distinct {xs : List Value} {x : Value} (h : x ∈ distinct xs) : x ∈ xs := by
  have run (xs seen : List Value) (h : x ∈ xs.foldl addMember seen) : x ∈ seen ∨ x ∈ xs := by
    induction xs generalizing seen with
    | nil => exact .inl h
    | cons y ys ih =>
      rcases ih _ h with h | h
      · unfold addMember at h
        split at h
        · exact .inl h
        · rcases List.mem_cons.mp h with rfl | h
          · exact .inr (List.mem_cons_self ..)
          · exact .inl h
      · exact .inr (List.mem_cons_of_mem _ h)
  rw [distinct_eq_foldl, List.mem_reverse] at h
  exact (run xs [] h).resolve_left List.not_mem_nil

/-! ### Entries of dictionaries -/

/-- The entries of a dictionary into which some entries are put, one after another. -/
def putEntries (es : List (Value × Value)) : List (Value × Value) :=
  es.foldl (fun acc (k, x) => putEntry acc k x) []

theorem putEntry_new {acc : List (Value × Value)} {k : Value}
    (new : acc.any (fun (k', _) => k'.same k) = false) (x : Value) :
    putEntry acc k x = acc ++ [(k, x)] := by
  rw [putEntry, new, if_neg Bool.false_ne_true]

theorem putEntry_differ {acc : List (Value × Value)} (h : Differ (acc.map Prod.fst)) (k x : Value) :
    Differ ((putEntry acc k x).map Prod.fst) := by
  cases new : acc.any (fun (k', _) => k'.same k) with
  | true =>
    -- The keys stay as they are.
    have keys : (putEntry acc k x).map Prod.fst = acc.map Prod.fst := by
      rw [putEntry, new, if_pos rfl, List.map_map]
      refine List.map_congr_left fun e _ => ?_
      dsimp only [Function.comp]
      split <;> rfl
    rwa [keys]
  | false =>
    rw [putEntry_new new, List.map_append]
    refine List.pairwise_append.mpr ⟨h, List.pairwise_singleton .., fun y hy z hz => ?_⟩
    obtain rfl := List.mem_singleton.mp hz
    obtain ⟨e, he, rfl⟩ := List.mem_map.mp hy
    exact Bool.eq_false_iff.mpr (List.any_eq_false.mp new e he)

/-- The keys of entries that are put in one after another differ. -/
theorem putEntries_differ (es : List (Value × Value)) :
    Differ ((putEntries es).map Prod.fst) := by
  have run (es acc : List (Value × Value)) (h : Differ (acc.map Prod.fst)) :
      Differ ((es.foldl (fun acc (k, x) => putEntry acc k x) acc).map Prod.fst) := by
    induction es generalizing acc with
    | nil => exact h
    | cons e es ih => exact ih _ (putEntry_differ h e.1 e.2)
  exact run es [] .nil

/-- Entries whose keys differ are all put in. -/
theorem putEntries_of_differ {es : List (Value × Value)} (h : Differ (es.map Prod.fst)) :
    putEntries es = es := by
  have run (es acc : List (Value × Value)) (h : Differ ((acc ++ es).map Prod.fst)) :
      es.foldl (fun acc (k, x) => putEntry acc k x) acc = acc ++ es := by
    induction es generalizing acc with
    | nil => simp
    | cons e es ih =>
      obtain ⟨k, x⟩ := e
      have new : acc.any (fun (k', _) => k'.same k) = false := by
        refine List.any_eq_false.mpr fun e he => ?_
        rw [List.map_append] at h
        have differ := (List.pairwise_append.mp h).2.2 e.1 (List.mem_map_of_mem he) k
        exact Bool.eq_false_iff.mp (differ (List.mem_cons_self ..))
      have rest : Differ (((acc ++ [(k, x)]) ++ es).map Prod.fst) := by simpa using h
      calc List.foldl (fun acc (k, x) => putEntry acc k x) acc ((k, x) :: es)
          = es.foldl (fun acc (k, x) => putEntry acc k x) (acc ++ [(k, x)]) := by
            rw [← putEntry_new new x]
            rfl
        _ = acc ++ (k, x) :: es := by rw [ih _ rest, List.append_assoc, List.singleton_append]
  exact run es [] h

theorem putEntries_putEntries (es : List (Value × Value)) :
    putEntries (putEntries es) = putEntries es := putEntries_of_differ (putEntries_differ es)

/-- What is put in under some key is one of the values, and its key is one of the keys. -/
theorem mem_of_mem_putEntries {P Q : Value → Prop} {es : List (Value × Value)}
    (h : ∀ e ∈ es, P e.1 ∧ Q e.2) : ∀ e ∈ putEntries es, P e.1 ∧ Q e.2 := by
  have step {acc : List (Value × Value)} (hacc : ∀ e ∈ acc, P e.1 ∧ Q e.2) {k x : Value}
      (hk : P k) (hx : Q x) : ∀ e ∈ putEntry acc k x, P e.1 ∧ Q e.2 := by
    intro e he
    unfold putEntry at he
    split at he
    · obtain ⟨e', he', rfl⟩ := List.mem_map.mp he
      dsimp only
      split
      · exact ⟨(hacc e' he').1, hx⟩
      · exact hacc e' he'
    · rcases List.mem_append.mp he with he | he
      · exact hacc e he
      · obtain rfl := List.mem_singleton.mp he
        exact ⟨hk, hx⟩
  have run (es acc : List (Value × Value)) (h : ∀ e ∈ es, P e.1 ∧ Q e.2)
      (hacc : ∀ e ∈ acc, P e.1 ∧ Q e.2) :
      ∀ e ∈ es.foldl (fun acc (k, x) => putEntry acc k x) acc, P e.1 ∧ Q e.2 := by
    induction es generalizing acc with
    | nil => exact hacc
    | cons e es ih =>
      obtain ⟨⟨hk, hx⟩, rest⟩ := List.forall_mem_cons.mp h
      exact ih _ rest (step hacc hk hx)
  exact run es [] h fun _ he => absurd he List.not_mem_nil

end CallContract
