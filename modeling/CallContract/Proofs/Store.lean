import CallContract.Proofs.Interchange

/-!
# What the store of adapters can do to a run

Two sessions are related if they differ at most in their stores, and both stores are kept: each
adapter has the rule of the schema that it is stored under. A run that reaches the store only by
looking up adapters of schemas in use, and goes on with their rules (`Uses`), gives the same result
in related sessions and leaves them related (`Uses.related`). So the store cannot be noticed.
-/

namespace CallContract

/-! ### Sessions without their stores -/

/-- A session with another store and another count of adapters. -/
def Session.withStore (s : Session) (store : AdapterStore) (made : Nat) : Session :=
  { s with adapters := store, adaptersMade := made }

/-- A session without what has to do with the store. -/
def Session.forget (s : Session) : Session := s.withStore [] 0

@[simp] theorem Session.withStore_self (s : Session) :
    s.withStore s.adapters s.adaptersMade = s := rfl

@[simp] theorem Session.withStore_withStore (s : Session) (store store' : AdapterStore)
    (made made' : Nat) :
    (s.withStore store made).withStore store' made' = s.withStore store' made' := rfl

@[simp] theorem Session.forget_withStore (s : Session) (store : AdapterStore) (made : Nat) :
    (s.withStore store made).forget = s.forget := rfl

@[simp] theorem Session.adapters_withStore (s : Session) (store : AdapterStore) (made : Nat) :
    (s.withStore store made).adapters = store := rfl

theorem Session.eq_withStore_of_forget {s t : Session} (h : s.forget = t.forget) :
    t = s.withStore t.adapters t.adaptersMade := by
  calc t = t.forget.withStore t.adapters t.adaptersMade := rfl
    _ = s.forget.withStore t.adapters t.adaptersMade := by rw [h]
    _ = s.withStore t.adapters t.adaptersMade := rfl

/-! ### Runs that do not look at the store -/

/-- Whether a run neither looks at the store nor changes it. -/
def Run.Blind {α : Type} (m : Run α) : Prop :=
  ∀ s store made, m.exec (Session.withStore s store made) =
    ((m.exec s).1, (m.exec s).2.withStore store made)

namespace Run.Blind

variable {α β : Type}

theorem pure (a : α) : (Pure.pure a : Run α).Blind := fun _ _ _ => rfl

theorem throw (e : Fault) : (MonadExcept.throw e : Run α).Blind := fun _ _ _ => rfl

theorem bind {m : Run α} {k : α → Run β} (hm : m.Blind) (hk : ∀ a, (k a).Blind) :
    (m >>= k).Blind := by
  intro s store made
  rw [exec_bind, exec_bind, hm]
  rcases m.exec s with ⟨_ | a, t⟩
  · rfl
  · exact hk a t store made

/-- A run that goes on from the session without looking at the store. -/
theorem get {k : Session → Run β} (hk : ∀ s, (k s).Blind)
    (unseen : ∀ s store made, k (Session.withStore s store made) = k s) :
    ((MonadState.get : Run Session) >>= k).Blind := by
  intro s store made
  rw [exec_bind, exec_bind]
  show (k (s.withStore store made)).exec (s.withStore store made) = _
  rw [unseen]
  exact hk s s store made

theorem modify {g : Session → Session}
    (h : ∀ s store made, g (Session.withStore s store made) = (g s).withStore store made) :
    (MonadState.modifyGet (fun s => ((), g s)) : Run Unit).Blind := by
  intro s store made
  show (_, g (s.withStore store made)) = _
  rw [h]
  rfl

theorem lift (r : Except Fault α) : (Run.lift r).Blind := by
  cases r <;> exact fun _ _ _ => rfl

theorem require (e : Fault) (r : Option α) : (Run.require e r).Blind := by
  cases r <;> exact fun _ _ _ => rfl

theorem record (source message : String) : (Run.record source message).Blind := fun _ _ _ => rfl

end Run.Blind

/-! ### Kept stores -/

/-- A list with the first item that meets a test in front. -/
def moveToFront {α : Type} (p : α → Bool) (xs : List α) : List α :=
  (xs.find? p).toList ++ xs.eraseP p

theorem moveToFront_perm {α : Type} (p : α → Bool) (xs : List α) :
    (moveToFront p xs).Perm xs := by
  unfold moveToFront
  cases found : xs.find? p with
  | none =>
    rw [List.eraseP_of_forall_not fun x hx => by simpa using List.find?_eq_none.mp found x hx]
    exact .refl _
  | some x =>
    obtain ⟨hx, front, back, rfl, absent⟩ := List.find?_eq_some_iff_append.mp found
    rw [List.eraseP_append_right _ (fun y hy => by simpa using absent y hy),
      List.eraseP_cons_of_pos hx]
    show (x :: (front ++ back)).Perm (front ++ x :: back)
    exact List.perm_middle.symm

/-- Whether each adapter in store has the rule of its schema, which is in use and can be a key. -/
def AdapterStore.Kept (C : Stock) (store : AdapterStore) : Prop :=
  ∀ e ∈ store, C.Holds e.1 ∧ e.1.isHashable = true ∧ e.1.rule = .ok e.2.rule

namespace AdapterStore

variable {C : Stock} {store store' : AdapterStore} {s : Schema} {a : Adapter}

theorem Kept.nil : Kept C [] := fun _ he => absurd he List.not_mem_nil

/-- Taking an adapter moves it to the front. -/
theorem take?_eq (S : Schema) (store : AdapterStore) :
    take? S store =
      (store.find? (·.1.same S)).map fun e => (e.2, moveToFront (·.1.same S) store) := by
  induction store with
  | nil => rfl
  | cons e rest ih =>
    obtain ⟨T, b⟩ := e
    cases same : T.same S with
    | true => simp [take?, moveToFront, same]
    | false => cases found : rest.find? (·.1.same S) <;> simp [take?, moveToFront, same, ih, found]

theorem take?_of_find? {e : Schema × Adapter} (found : store.find? (·.1.same s) = some e) :
    take? s store = some (e.2, moveToFront (·.1.same s) store) := by
  rw [take?_eq, found]
  rfl

theorem take?_of_missing (missing : store.find? (·.1.same s) = none) : take? s store = none := by
  rw [take?_eq, missing]
  rfl

/-- What is taken was in store for an equal schema, and taking it adds nothing to the store. -/
theorem take?_eq_some (h : take? s store = some (a, store')) :
    (∃ t, (t, a) ∈ store ∧ t.same s = true) ∧ ∀ e ∈ store', e ∈ store := by
  rw [take?_eq] at h
  obtain ⟨⟨t, b⟩, found, h⟩ := Option.map_eq_some_iff.mp h
  obtain ⟨rfl, rfl⟩ := Prod.mk.inj h
  refine ⟨⟨t, List.mem_of_find?_eq_some found, by simpa using List.find?_some found⟩, ?_⟩
  exact fun e he => (moveToFront_perm _ store).mem_iff.mp he

theorem Kept.put (h : Kept C store) (held : C.Holds s) (hashable : s.isHashable = true)
    (rule : s.rule = .ok a.rule) : Kept C (put s a store) := by
  intro e he
  rcases List.mem_cons.mp (List.mem_of_mem_take he) with rfl | he
  · exact ⟨held, hashable, rule⟩
  · exact h e he

end AdapterStore

/-- What a lookup comes to in a session: the fault that the schema has no rule, or an adapter with a
rule like that of the schema. Either way only the store has changed, and it is kept. -/
inductive Served (C : Stock) (s : Schema) (t : Session) :
    Except Fault Adapter × Session → Prop where
  /-- There is no rule. -/
  | refused {e : Fault} : s.rule = .error e → Served C s t (.error e, t)
  /-- There is one, and the adapter has one like it. -/
  | served {r : Rule} {a : Adapter} {u : Session} : s.rule = .ok r → a.rule.Alike C r →
    u.forget = t.forget → AdapterStore.Kept C u.adapters → Served C s t (.ok a, u)

section Lookup

variable {C : Stock}

theorem Schema.exec_newAdapter (s : Schema) (t : Session) : s.newAdapter.exec t =
    match s.rule with
    | .ok r => (.ok ⟨t.adaptersMade, r⟩, t.withStore t.adapters (t.adaptersMade + 1))
    | .error e => (.error e, t) := by
  unfold Schema.newAdapter
  cases s.rule with
  | ok r => rfl
  | error e => rfl

section

variable {S : Schema} {s : Session}

theorem Schema.exec_adapter_of_unhashable (h : S.isHashable = false) :
    S.adapter.exec s = S.newAdapter.exec s := by
  rw [adapter, h]
  rfl

theorem Schema.exec_adapter_of_taken (h : S.isHashable = true) {a : Adapter} {store : AdapterStore}
    (taken : AdapterStore.take? S s.adapters = some (a, store)) :
    S.adapter.exec s = (.ok a, s.withStore store s.adaptersMade) := by
  rw [adapter, if_pos h, Run.exec_bind_of_ok (Run.exec_get s), taken]
  rfl

theorem Schema.exec_adapter_of_missing (h : S.isHashable = true)
    (missing : AdapterStore.take? S s.adapters = none) : S.adapter.exec s = match S.rule with
      | .ok r => (.ok ⟨s.adaptersMade, r⟩,
        s.withStore (.put S ⟨s.adaptersMade, r⟩ s.adapters) (s.adaptersMade + 1))
      | .error e => (.error e, s) := by
  have made := S.exec_newAdapter s
  rw [adapter, if_pos h, Run.exec_bind_of_ok (Run.exec_get s), missing]
  cases rule : S.rule with
  | ok r =>
    rw [rule] at made
    exact Run.exec_bind_of_ok made
  | error e =>
    rw [rule] at made
    exact Run.exec_bind_of_error made

end

/-- A lookup changes nothing but the store. -/
theorem Schema.adapter_session (S : Schema) (s : Session) :
    ∃ store made, (S.adapter.exec s).2 = s.withStore store made := by
  cases hashable : S.isHashable with
  | false =>
    rw [exec_adapter_of_unhashable hashable, exec_newAdapter]
    cases S.rule with
    | ok r => exact ⟨_, _, rfl⟩
    | error e => exact ⟨s.adapters, s.adaptersMade, rfl⟩
  | true =>
    cases taken : AdapterStore.take? S s.adapters with
    | some found =>
      rw [exec_adapter_of_taken hashable taken]
      exact ⟨_, _, rfl⟩
    | none =>
      rw [exec_adapter_of_missing hashable taken]
      cases S.rule with
      | ok r => exact ⟨_, _, rfl⟩
      | error e => exact ⟨s.adapters, s.adaptersMade, rfl⟩

/-- An adapter in a kept store serves every schema that equals its own. -/
theorem AdapterStore.Kept.rule_of_taken {store rest : AdapterStore} (kept : Kept C store)
    {s : Schema} (held : C.Holds s) {a : Adapter} (taken : take? s store = some (a, rest)) :
    ∃ r, s.rule = .ok r ∧ a.rule.Alike C r := by
  obtain ⟨t, hmem, same⟩ := (take?_eq_some taken).1
  obtain ⟨heldKey, hashable, rule⟩ := kept _ hmem
  have agree := Schema.rule_agree same hashable heldKey held
  rw [rule] at agree
  cases hr : s.rule with
  | ok r =>
    rw [hr] at agree
    cases agree with
    | ok h => exact ⟨r, rfl, h⟩
  | error e =>
    rw [hr] at agree
    cases agree

/-- Lookups in a kept store serve as new adapters would. -/
theorem Schema.adapter_served {s : Schema} (held : C.Holds s) {t : Session}
    (kept : AdapterStore.Kept C t.adapters) : Served C s t (s.adapter.exec t) := by
  cases hashable : s.isHashable with
  | false =>
    rw [exec_adapter_of_unhashable hashable, exec_newAdapter]
    cases hr : s.rule with
    | ok r => exact .served hr (.refl r) rfl kept
    | error e => exact .refused hr
  | true =>
    cases taken : AdapterStore.take? s t.adapters with
    | some found =>
      obtain ⟨r, hr, alike⟩ := kept.rule_of_taken held taken
      rw [exec_adapter_of_taken hashable taken]
      refine .served (u := t.withStore _ t.adaptersMade) hr alike rfl ?_
      exact fun e he => kept e ((AdapterStore.take?_eq_some taken).2 e he)
    | none =>
      rw [exec_adapter_of_missing hashable taken]
      cases hr : s.rule with
      | ok r => exact .served (u := t.withStore _ _) hr (.refl r) rfl (kept.put held hashable hr)
      | error e => exact .refused hr

end Lookup

/-! ### Runs that cannot notice the store -/

/-- Runs that reach the store only by looking up adapters of schemas in use, or by dropping all.
What follows a lookup depends on the rule that is found, and not on which of several alike. -/
inductive Uses (C : Stock) : {α : Type} → Run α → Prop where
  /-- A run that does not look at the store. -/
  | blind {α : Type} {m : Run α} : m.Blind → Uses C m
  /-- One run after another. -/
  | bind {α β : Type} {m : Run α} {k : α → Run β} : Uses C m → (∀ a, Uses C (k a)) →
    Uses C (m >>= k)
  /-- A run whose faults are handled by another. -/
  | tryCatch {α : Type} {m : Run α} {h : Fault → Run α} : Uses C m → (∀ e, Uses C (h e)) →
    Uses C (MonadExcept.tryCatch m h)
  /-- A lookup, and what follows it. -/
  | lookup {α : Type} {s : Schema} {k : Rule → Run α} : C.Holds s →
    (∀ r, s.rule = .ok r → Uses C (k r)) → (∀ r r', r.Alike C r' → k r = k r') →
    Uses C (s.adapter >>= fun a => k a.rule)
  /-- Dropping all adapters. -/
  | clear : Uses C clearAdapters

/-- Sessions that differ at most in their stores, both of which are kept. -/
structure Session.Related (C : Stock) (s t : Session) : Prop where
  forget : s.forget = t.forget
  left : AdapterStore.Kept C s.adapters
  right : AdapterStore.Kept C t.adapters

/-- The same result in related sessions. -/
structure SameOutcome (C : Stock) {α : Type} (x y : Except Fault α × Session) : Prop where
  result : x.1 = y.1
  session : x.2.Related C y.2

theorem Run.Blind.related {C : Stock} {α : Type} {m : Run α} (hm : m.Blind) {s t : Session}
    (h : s.Related C t) : SameOutcome C (m.exec s) (m.exec t) := by
  have kept := hm s s.adapters s.adaptersMade
  rw [Session.withStore_self] at kept
  have moved := hm s t.adapters t.adaptersMade
  rw [← Session.eq_withStore_of_forget h.forget] at moved
  rw [moved]
  refine ⟨rfl, rfl, ?_, h.right⟩
  rw [kept]
  exact h.left

/-- Runs that use the store in this way give the same results in related sessions. -/
theorem Uses.related {C : Stock} {α : Type} {m : Run α} (h : Uses C m) :
    ∀ {s t : Session}, s.Related C t → SameOutcome C (m.exec s) (m.exec t) := by
  induction h with
  | blind hm => exact hm.related
  | @bind α β m k _ _ ihm ihk =>
    intro s t hst
    have first := ihm hst
    rw [Run.exec_bind, Run.exec_bind]
    generalize m.exec s = x at first ⊢
    generalize m.exec t = y at first ⊢
    obtain ⟨x, s'⟩ := x
    obtain ⟨y, t'⟩ := y
    obtain ⟨rfl, session⟩ : x = y ∧ s'.Related C t' := ⟨first.result, first.session⟩
    cases x with
    | ok a => exact ihk a session
    | error e => exact ⟨rfl, session⟩
  | @tryCatch α m handle _ _ ihm ihh =>
    intro s t hst
    have first := ihm hst
    rw [Run.exec_tryCatch, Run.exec_tryCatch]
    generalize m.exec s = x at first ⊢
    generalize m.exec t = y at first ⊢
    obtain ⟨x, s'⟩ := x
    obtain ⟨y, t'⟩ := y
    obtain ⟨rfl, session⟩ : x = y ∧ s'.Related C t' := ⟨first.result, first.session⟩
    cases x with
    | ok a => exact ⟨rfl, session⟩
    | error e => exact ihh e session
  | @lookup α S k held _ respects ihk =>
    intro s t hst
    have onLeft := Schema.adapter_served held hst.left
    have onRight := Schema.adapter_served held hst.right
    rw [Run.exec_bind, Run.exec_bind]
    cases hx : S.adapter.exec s with
    | mk x s' =>
    cases hy : S.adapter.exec t with
    | mk y t' =>
    rw [hx] at onLeft
    rw [hy] at onRight
    cases onLeft with
    | refused hr =>
      cases onRight with
      | refused hr' =>
        obtain rfl := Except.error.inj (hr.symm.trans hr')
        exact ⟨rfl, hst⟩
      | served hr' => cases hr.symm.trans hr'
    | served hr alike forget kept =>
      cases onRight with
      | refused hr' => cases hr.symm.trans hr'
      | served hr' alike' forget' kept' =>
        -- Both adapters have a rule like that of the schema, and so what follows is the same.
        obtain rfl := Except.ok.inj (hr.symm.trans hr')
        simp only [respects _ _ alike, respects _ _ alike']
        exact ihk _ hr ⟨forget.trans (hst.forget.trans forget'.symm), kept, kept'⟩
  | clear =>
    intro s t hst
    exact ⟨rfl, hst.forget, .nil, .nil⟩

end CallContract
