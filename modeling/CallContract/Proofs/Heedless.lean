import CallContract.Proofs.Calling
import CallContract.Proofs.Loading
import CallContract.Proofs.Store

/-!
# What an open gate leaves behind

A schema that accepts everything still has an adapter, and a check by it still asks the settings how
strict it is. So a session in which there was such a check has loaded its settings and has one more
adapter in store than one in which there was none, as long as the store has room for it
(`Session.Alike`). No call does anything else because of that (`callWithin_heedless`): each sort of
step comes to the same in the two sessions and leaves them alike (`Run.Heedless`), and calls are put
together from such steps.
-/

namespace CallContract

/-! ### Stores with and without an open schema -/

/-- Whether a schema accepts everything. -/
def Schema.isOpen : Schema → Bool
  | .any _ => true
  | _ => false

theorem Schema.isOpen_iff {S : Schema} : S.isOpen = true ↔ ∃ l, S = .any l := by
  constructor
  · intro h
    cases S with
    | any l => exact ⟨l, rfl⟩
    | _ => cases h
  · rintro ⟨l, rfl⟩
    rfl

theorem Schema.isOpen_promote {S : Schema} (h : S.isOpen = true) :
    (promote S.toValue).isOpen = true := by
  obtain ⟨l, rfl⟩ := isOpen_iff.mp h
  rfl

theorem Schema.isOpen_of_same {S T : Schema} (same : T.same S = true) : T.isOpen = S.isOpen := by
  cases T <;> cases S <;> simp_all [Schema.same, isOpen]

theorem Schema.same_open {S T : Schema} (h : S.isOpen = true) : T.same S = T.isOpen := by
  obtain ⟨l, rfl⟩ := isOpen_iff.mp h
  cases T <;> simp [Schema.same, isOpen]

theorem filter_eraseP_of_not {α : Type} {p q : α → Bool} (apart : ∀ x, p x = true → q x = false)
    (xs : List α) : (xs.eraseP p).filter q = xs.filter q := by
  induction xs with
  | nil => rfl
  | cons x xs ih =>
    cases hp : p x with
    | true => rw [List.eraseP_cons_of_pos hp, List.filter_cons_of_neg (by simp [apart x hp])]
    | false =>
      rw [List.eraseP_cons_of_neg (by simp [hp]), List.filter_cons, List.filter_cons, ih]

namespace AdapterStore

variable {store store' : AdapterStore} {S : Schema} {a a' : Adapter}

/-- The schemas in store that do not accept everything, with their rules. -/
def closed (store : AdapterStore) : List (Schema × Rule) :=
  (store.filter fun e => !e.1.isOpen).map fun e => (e.1, e.2.rule)

/-- Whether the adapters for schemas that accept everything do accept everything. -/
def Open (store : AdapterStore) : Prop :=
  ∀ e ∈ store, e.1.isOpen = true → e.2.rule = .any

/-- Whether a store has, compared with another, at most one adapter more, which accepts everything;
and one that does so it has. -/
structure Beside (store store' : AdapterStore) : Prop where
  closed : store.closed = store'.closed
  left : store.Open
  right : store'.Open
  served : ∃ e ∈ store', e.1.isOpen = true
  length : store'.length ≤ store.length + 1

theorem Open.nil : Open [] := fun _ h => absurd h List.not_mem_nil

theorem Open.perm (h : store.Open) (perm : store'.Perm store) : store'.Open :=
  fun e he => h e (perm.mem_iff.mp he)

theorem Open.put (h : store.Open) (rule : S.isOpen = true → a.rule = .any) :
    (put S a store).Open := by
  intro e he hopen
  rcases List.mem_cons.mp (List.mem_of_mem_take he) with rfl | he
  · exact rule hopen
  · exact h e he hopen

theorem put_of_room (room : store.length < adapterLimit) : put S a store = (S, a) :: store :=
  List.take_of_length_le room

theorem closed_find? (h : S.isOpen = false) : store.closed.find? (·.1.same S) =
    (store.find? (·.1.same S)).map fun e => (e.1, e.2.rule) := by
  rw [closed, List.find?_map, List.find?_filter]
  congr 2
  funext e
  cases same : e.1.same S with
  | true => simp [same, Schema.isOpen_of_same same, h]
  | false => simp [same]

theorem closed_moveToFront (h : S.isOpen = false) :
    closed (moveToFront (·.1.same S) store) = moveToFront (·.1.same S) store.closed := by
  have erased : closed (store.eraseP (·.1.same S)) = store.closed.eraseP (·.1.same S) := by
    rw [closed, closed, List.eraseP_map, List.eraseP_filter]
    congr 3
    funext e
    cases same : e.1.same S with
    | true => simp [same, Schema.isOpen_of_same same, h]
    | false => simp [same]
  rw [moveToFront, moveToFront, closed_find? h, ← erased]
  cases found : store.find? (·.1.same S) with
  | none => rfl
  | some e =>
    have same : e.1.same S = true := by simpa using List.find?_some found
    simp [closed, Schema.isOpen_of_same same, h]

theorem closed_moveToFront_open : closed (moveToFront (·.1.isOpen) store) = store.closed := by
  have erased := filter_eraseP_of_not (p := fun e : Schema × Adapter => e.1.isOpen)
    (q := fun e => !e.1.isOpen) (fun _ h => by simpa using h) store
  rw [moveToFront, closed, closed, List.filter_append, erased]
  cases found : store.find? (·.1.isOpen) with
  | none => rfl
  | some e =>
    have hopen : e.1.isOpen = true := by simpa using List.find?_some found
    simp [hopen]

namespace Beside

/-- A lookup of a schema that does not accept everything finds alike adapters, if any. -/
theorem find? (beside : store.Beside store') (h : S.isOpen = false) :
    (store'.find? (·.1.same S)).map (·.2.rule) = (store.find? (·.1.same S)).map (·.2.rule) := by
  have same := congrArg (List.find? fun e : Schema × Rule => e.1.same S) beside.closed
  rw [closed_find? h, closed_find? h] at same
  have rules := congrArg (Option.map Prod.snd) same.symm
  rwa [Option.map_map, Option.map_map] at rules

/-- Moving entries to the front keeps two stores alike, if it does to the schemas that do not accept
everything. -/
theorem move (beside : store.Beside store') {left right : AdapterStore} (onLeft : left.Perm store)
    (onRight : right.Perm store') (closed : left.closed = right.closed) :
    left.Beside right where
  closed := closed
  left := beside.left.perm onLeft
  right := beside.right.perm onRight
  served := by
    obtain ⟨e, he, hopen⟩ := beside.served
    exact ⟨e, onRight.mem_iff.mpr he, hopen⟩
  length := by
    rw [onLeft.length_eq, onRight.length_eq]
    exact beside.length

/-- New adapters with the same rule go into both stores, as long as there is room. -/
theorem put (beside : store.Beside store') (rule : a.rule = a'.rule)
    (accepts : S.isOpen = true → a.rule = .any) (room : store.length + 1 < adapterLimit) :
    (put S a store).Beside (put S a' store') := by
  have length := beside.length
  have onLeft : AdapterStore.put S a store = (S, a) :: store := put_of_room (by omega)
  have onRight : AdapterStore.put S a' store' = (S, a') :: store' := put_of_room (by omega)
  refine ⟨?_, beside.left.put accepts, beside.right.put (rule ▸ accepts), ?_, ?_⟩
  · have same := beside.closed
    unfold AdapterStore.closed at same ⊢
    rw [onLeft, onRight, List.filter_cons, List.filter_cons]
    cases S.isOpen <;> simp [same, rule]
  · obtain ⟨e, he, hopen⟩ := beside.served
    rw [onRight]
    exact ⟨e, List.mem_cons_of_mem _ he, hopen⟩
  · rw [onLeft, onRight, List.length_cons, List.length_cons]
    omega

end Beside

/-- The store after an adapter for an open schema was looked up; `a` is the new one if there is none
yet. -/
def opened (S : Schema) (a : Adapter) (store : AdapterStore) : AdapterStore :=
  if store.any (·.1.isOpen) then moveToFront (·.1.isOpen) store else put S a store

theorem opened_of_served (served : ∃ e ∈ store, e.1.isOpen = true) :
    opened S a store = moveToFront (·.1.isOpen) store := by
  obtain ⟨e, he, hopen⟩ := served
  exact if_pos (List.any_eq_true.mpr ⟨e, he, hopen⟩)

/-- Looking up an open schema puts at most one adapter more into the store. -/
theorem Open.opened (hopen : store.Open) (h : S.isOpen = true) (rule : a.rule = .any)
    (room : store.length + 1 < adapterLimit) : store.Beside (opened S a store) := by
  unfold AdapterStore.opened
  split
  case isTrue found =>
    have moved := moveToFront_perm (fun e : Schema × Adapter => e.1.isOpen) store
    refine ⟨closed_moveToFront_open.symm, hopen, hopen.perm moved, ?_, ?_⟩
    · obtain ⟨e, he, hopen⟩ := List.any_eq_true.mp found
      exact ⟨e, moved.mem_iff.mpr he, hopen⟩
    · rw [moved.length_eq]
      omega
  case isFalse =>
    have stored : AdapterStore.put S a store = (S, a) :: store := put_of_room (by omega)
    refine ⟨?_, hopen, hopen.put fun _ => rule, ?_, ?_⟩
    · rw [stored, closed, closed, List.filter_cons_of_neg (by simp [h])]
    · rw [stored]
      exact ⟨(S, a), List.mem_cons_self .., h⟩
    · rw [stored]
      exact Nat.le_refl _

/-- Looking it up in both stores keeps them alike. -/
theorem Beside.opened (beside : store.Beside store') (h : S.isOpen = true) (rule : a.rule = .any)
    (room : store.length + 1 < adapterLimit) :
    (opened S a store).Beside (AdapterStore.opened S a' store') := by
  have moved := moveToFront_perm (fun e : Schema × Adapter => e.1.isOpen)
  -- One of the stores has an adapter for open schemas, the other may still need one.
  rw [opened_of_served beside.served]
  unfold AdapterStore.opened
  split
  case isTrue =>
    refine beside.move (moved _) (moved _) ?_
    rw [closed_moveToFront_open, closed_moveToFront_open, beside.closed]
  case isFalse =>
    have stored : AdapterStore.put S a store = (S, a) :: store := put_of_room (by omega)
    refine ⟨?_, beside.left.put fun _ => rule, beside.right.perm (moved _), ?_, ?_⟩
    · rw [closed_moveToFront_open, ← beside.closed, stored, AdapterStore.closed,
        AdapterStore.closed, List.filter_cons_of_neg (by simp [h])]
    · obtain ⟨e, he, hopen⟩ := beside.served
      exact ⟨e, (moved _).mem_iff.mpr he, hopen⟩
    · rw [stored, (moved _).length_eq, List.length_cons]
      exact Nat.le_succ_of_le beside.length

end AdapterStore

/-! ### Lookups -/

namespace Schema

variable {S : Schema} {s : Session}

theorem rule_of_open (h : S.isOpen = true) : S.rule = .ok .any := by
  obtain ⟨l, rfl⟩ := isOpen_iff.mp h
  rfl

/-- The adapter for a schema that accepts everything accepts everything. -/
theorem exec_adapter_of_open (h : S.isOpen = true) (hopen : AdapterStore.Open s.adapters) :
    ∃ (a b : Adapter) (made : Nat),
      S.adapter.exec s = (.ok a, s.withStore (.opened S b s.adapters) made) ∧
      a.rule = .any ∧ b.rule = .any := by
  obtain ⟨l, rfl⟩ := isOpen_iff.mp h
  have tests : (fun e : Schema × Adapter => e.1.same (.any l)) = (·.1.isOpen) :=
    funext fun e => same_open rfl
  cases found : s.adapters.find? (·.1.isOpen) with
  | some e =>
    have hopenEntry : e.1.isOpen = true := by simpa using List.find?_some found
    have mem := List.mem_of_find?_eq_some found
    refine ⟨e.2, ⟨0, .any⟩, s.adaptersMade, ?_, hopen e mem hopenEntry, rfl⟩
    rw [exec_adapter_of_taken rfl (AdapterStore.take?_of_find? (tests ▸ found)),
      AdapterStore.opened_of_served ⟨e, mem, hopenEntry⟩, tests]
  | none =>
    refine ⟨⟨s.adaptersMade, .any⟩, ⟨s.adaptersMade, .any⟩, s.adaptersMade + 1, ?_, rfl, rfl⟩
    have absent : ¬ s.adapters.any (·.1.isOpen) = true := by
      simpa [List.find?_eq_none] using found
    rw [exec_adapter_of_missing rfl (AdapterStore.take?_of_missing (tests ▸ found)),
      AdapterStore.opened, if_neg absent]
    rfl

end Schema

/-! ### Sessions -/

/-- A session with the books of another: with its settings, with the files and the environment from
which these are loaded, and with its adapters and its journal. -/
def Session.withBooks (s books : Session) : Session :=
  { books with
    refs := s.refs
    predicates := s.predicates
    tokens := s.tokens
    records := s.records
    trace := s.trace
    next := s.next }

/-- What programs can see of a session: all but the books. -/
def Session.shown (s : Session) : Session := s.withBooks .start

theorem Session.eq_withBooks_of_shown {s t : Session} (h : s.shown = t.shown) :
    t = s.withBooks t := by
  calc t = t.shown.withBooks t := rfl
    _ = s.shown.withBooks t := by rw [h]
    _ = s.withBooks t := rfl

theorem Session.records_of_shown {s t : Session} (h : s.shown = t.shown) :
    s.records = t.records := by
  rw [eq_withBooks_of_shown h]
  rfl

theorem Session.trace_of_shown {s t : Session} (h : s.shown = t.shown) : s.trace = t.trace := by
  rw [eq_withBooks_of_shown h]
  rfl

/-- Whether there is room for two more adapters in store. -/
def Session.Roomy (s : Session) : Prop := s.adapters.length + 1 < adapterLimit

/-- Whether a session differs from another at most in its books, which tell the same about settings
and have at most an open schema more in store. -/
structure Session.Alike (s t : Session) : Prop where
  shown : s.shown = t.shown
  outlook : s.outlook = t.outlook
  stores : AdapterStore.Beside s.adapters t.adapters

/-- What stays in the course of a run: the settings tell the same, the open schemas in store stay
open, and the store does not get room. -/
structure Session.Onward (s t : Session) : Prop where
  outlook : t.outlook = s.outlook
  stores : AdapterStore.Open s.adapters → AdapterStore.Open t.adapters
  roomy : t.Roomy → s.Roomy

theorem Session.Onward.refl (s : Session) : s.Onward s := ⟨rfl, id, id⟩

theorem Session.Onward.trans {s t u : Session} (h : s.Onward t) (h' : t.Onward u) :
    s.Onward u :=
  ⟨h'.outlook.trans h.outlook, h'.stores ∘ h.stores, h.roomy ∘ h'.roomy⟩

theorem Session.outlook_withStore (s : Session) (store : AdapterStore) (made : Nat) :
    (s.withStore store made).outlook = s.outlook := outlook_congr rfl rfl rfl

theorem Session.Alike.withStore {s t : Session} (h : s.Alike t) {store store' : AdapterStore}
    (beside : store.Beside store') (made made' : Nat) :
    (s.withStore store made).Alike (t.withStore store' made') where
  shown := h.shown
  outlook := by rw [outlook_withStore, outlook_withStore, h.outlook]
  stores := beside

theorem Session.outlook_withBooks (u s : Session) : (u.withBooks s).outlook = s.outlook :=
  outlook_congr rfl rfl rfl

/-- Where nothing but what programs can see has changed. -/
theorem Session.Onward.withBooks (u s : Session) : s.Onward (u.withBooks s) :=
  ⟨outlook_withBooks u s, id, id⟩

theorem Session.Alike.withBooks {s t : Session} (h : s.Alike t) (u : Session) :
    (u.withBooks s).Alike (u.withBooks t) where
  shown := rfl
  outlook := by rw [outlook_withBooks, outlook_withBooks, h.outlook]
  stores := h.stores

/-- A session with other records of families that are being made. -/
def Session.withRecords (s : Session) (records : List Value) : Session := { s with records }

theorem Session.outlook_withRecords (s : Session) (records : List Value) :
    (s.withRecords records).outlook = s.outlook := outlook_congr rfl rfl rfl

theorem Session.Alike.withRecords {s t : Session} (h : s.Alike t) (records : List Value) :
    (s.withRecords records).Alike (t.withRecords records) where
  shown := congrArg (fun s : Session => { s with records }) h.shown
  outlook := by rw [outlook_withRecords, outlook_withRecords, h.outlook]
  stores := h.stores

theorem Run.exec_withRecord {α : Type} (r : Value) (m : Run α) (s : Session) :
    (Run.withRecord r m).exec s = ((m.exec (s.withRecords (r :: s.records))).1,
      (m.exec (s.withRecords (r :: s.records))).2.withRecords s.records) := by
  unfold Run.withRecord
  simp only [exec_bind, exec_get, exec_modify, exec_tryCatch, exec_map, Session.withRecords]
  rcases m.exec _ with ⟨_ | _, u⟩ <;> rfl

/-! ### Lookups in sessions that are alike -/

namespace Schema

variable (S : Schema)

/-- A lookup goes onward. -/
theorem adapter_onward (s : Session) : s.Onward (S.adapter.exec s).2 := by
  cases hashable : S.isHashable with
  | false =>
    rw [S.exec_adapter_of_unhashable hashable, S.exec_newAdapter]
    cases S.rule with
    | ok r => exact ⟨Session.outlook_withStore _ _ _, id, id⟩
    | error e => exact .refl s
  | true =>
    cases found : List.find? (·.1.same S) s.adapters with
    | some e =>
      have moved := moveToFront_perm (fun e : Schema × Adapter => e.1.same S) s.adapters
      rw [S.exec_adapter_of_taken hashable (AdapterStore.take?_of_find? found)]
      refine ⟨Session.outlook_withStore _ _ _, fun hopen => hopen.perm moved, fun roomy => ?_⟩
      rw [Session.Roomy] at roomy ⊢
      rwa [Session.adapters_withStore, moved.length_eq] at roomy
    | none =>
      rw [S.exec_adapter_of_missing hashable (AdapterStore.take?_of_missing found)]
      cases rule : S.rule with
      | error e => exact .refl s
      | ok r =>
        refine ⟨Session.outlook_withStore _ _ _, fun hopen => hopen.put fun h => ?_,
          fun roomy => ?_⟩
        · exact Except.ok.inj (rule.symm.trans (S.rule_of_open h))
        · rw [Session.Roomy, Session.adapters_withStore, AdapterStore.put, List.length_take,
            List.length_cons] at roomy
          rw [Session.Roomy]
          omega

variable {S} {s t : Session}

theorem adapter_alike_of_open (hopen : S.isOpen = true) (h : s.Alike t) (room : s.Roomy) :
    (S.adapter.exec t).1.map Adapter.rule = (S.adapter.exec s).1.map Adapter.rule ∧
      (S.adapter.exec s).2.Alike (S.adapter.exec t).2 := by
  obtain ⟨a, b, made, found, rule, new⟩ := exec_adapter_of_open hopen h.stores.left
  obtain ⟨a', b', made', found', rule', -⟩ := exec_adapter_of_open hopen h.stores.right
  rw [found, found']
  refine ⟨?_, h.withStore (h.stores.opened hopen new room) _ _⟩
  rw [Except.map, Except.map, rule, rule']

theorem adapter_alike_of_hashable (hashable : S.isHashable = true) (hopen : S.isOpen = false)
    (h : s.Alike t) (room : s.Roomy) :
    (S.adapter.exec t).1.map Adapter.rule = (S.adapter.exec s).1.map Adapter.rule ∧
      (S.adapter.exec s).2.Alike (S.adapter.exec t).2 := by
  have same := h.stores.find? hopen
  cases found : List.find? (·.1.same S) s.adapters with
  | some e =>
    cases found' : List.find? (·.1.same S) t.adapters with
    | none =>
      rw [found, found'] at same
      cases same
    | some e' =>
      rw [found, found'] at same
      rw [exec_adapter_of_taken hashable (AdapterStore.take?_of_find? found),
        exec_adapter_of_taken hashable (AdapterStore.take?_of_find? found')]
      refine ⟨congrArg Except.ok (Option.some.inj same), h.withStore ?_ _ _⟩
      refine h.stores.move (moveToFront_perm _ _) (moveToFront_perm _ _) ?_
      rw [AdapterStore.closed_moveToFront hopen, AdapterStore.closed_moveToFront hopen,
        h.stores.closed]
  | none =>
    cases found' : List.find? (·.1.same S) t.adapters with
    | some e' =>
      rw [found, found'] at same
      cases same
    | none =>
      rw [exec_adapter_of_missing hashable (AdapterStore.take?_of_missing found),
        exec_adapter_of_missing hashable (AdapterStore.take?_of_missing found')]
      cases S.rule with
      | error e => exact ⟨rfl, h⟩
      | ok r =>
        have stores : AdapterStore.Beside (.put S ⟨s.adaptersMade, r⟩ s.adapters)
            (.put S ⟨t.adaptersMade, r⟩ t.adapters) := by
          refine h.stores.put rfl (fun h => ?_) room
          rw [hopen] at h
          cases h
        exact ⟨rfl, h.withStore stores _ _⟩

variable (S)

/-- A lookup finds adapters with the same rule in sessions that are alike, and leaves them alike. -/
theorem adapter_alike (h : s.Alike t) (room : s.Roomy) :
    (S.adapter.exec t).1.map Adapter.rule = (S.adapter.exec s).1.map Adapter.rule ∧
      (S.adapter.exec s).2.Alike (S.adapter.exec t).2 := by
  cases hashable : S.isHashable with
  | true =>
    cases hopen : S.isOpen with
    | true => exact adapter_alike_of_open hopen h room
    | false => exact adapter_alike_of_hashable hashable hopen h room
  | false =>
    rw [exec_adapter_of_unhashable hashable, exec_adapter_of_unhashable hashable,
      exec_newAdapter, exec_newAdapter]
    cases S.rule with
    | ok r => exact ⟨rfl, h.withStore h.stores _ _⟩
    | error e => exact ⟨rfl, h⟩

end Schema

/-! ### Runs that heed nothing of it -/

/-- Whether a run goes onward, and does the same in sessions that are alike, as long as there is
room in store after it. -/
structure Run.Heedless {α : Type} (m : Run α) : Prop where
  onward : ∀ s : Session, s.Onward (m.exec s).2
  alike : ∀ s t : Session, s.Alike t → (m.exec s).2.Roomy →
    (m.exec t).1 = (m.exec s).1 ∧ (m.exec s).2.Alike (m.exec t).2

namespace Run.Heedless

variable {α β : Type}

/-- A run that neither looks into the books nor writes into them. -/
theorem of_bookless {m : Run α} (bookless : ∀ s books, m.exec (Session.withBooks s books) =
    ((m.exec s).1, (m.exec s).2.withBooks books)) : Run.Heedless m where
  onward s := by
    have kept : (m.exec s).2 = (m.exec s).2.withBooks s := congrArg Prod.snd (bookless s s)
    rw [kept]
    exact .withBooks _ s
  alike s t h _ := by
    have kept : (m.exec s).2 = (m.exec s).2.withBooks s := congrArg Prod.snd (bookless s s)
    have moved := bookless s t
    rw [← Session.eq_withBooks_of_shown h.shown] at moved
    rw [moved]
    refine ⟨rfl, ?_⟩
    rw [kept]
    exact h.withBooks _

theorem pure (a : α) : Run.Heedless (Pure.pure a) := of_bookless fun _ _ => rfl

theorem throw (e : Fault) : Run.Heedless (MonadExcept.throw e : Run α) :=
  of_bookless fun _ _ => rfl

theorem bind {m : Run α} {k : α → Run β} (first : Run.Heedless m)
    (rest : ∀ a, Run.Heedless (k a)) : Run.Heedless (m >>= k) where
  onward s := by
    have onward := first.onward s
    rcases hm : m.exec s with ⟨e | a, u⟩ <;> rw [hm] at onward
    · rwa [exec_bind_of_error hm]
    · rw [exec_bind_of_ok hm]
      exact onward.trans ((rest a).onward u)
  alike s t h roomy := by
    have same := first.alike s t h
    rcases hm : m.exec s with ⟨e | a, u⟩ <;> rw [hm] at same
    · rw [exec_bind_of_error hm] at roomy ⊢
      obtain ⟨result, session⟩ := same roomy
      have ran : m.exec t = (.error e, (m.exec t).2) := Prod.ext result rfl
      rw [exec_bind_of_error ran]
      exact ⟨rfl, session⟩
    · rw [exec_bind_of_ok hm] at roomy ⊢
      obtain ⟨result, session⟩ := same (((rest a).onward u).roomy roomy)
      have ran : m.exec t = (.ok a, (m.exec t).2) := Prod.ext result rfl
      rw [exec_bind_of_ok ran]
      exact (rest a).alike u _ session roomy

theorem tryCatch {m : Run α} {handle : Fault → Run α} (first : Run.Heedless m)
    (rest : ∀ e, Run.Heedless (handle e)) :
    Run.Heedless (MonadExcept.tryCatch m handle) where
  onward s := by
    have onward := first.onward s
    rw [exec_tryCatch]
    rcases hm : m.exec s with ⟨e | a, u⟩ <;> rw [hm] at onward
    · exact onward.trans ((rest e).onward u)
    · exact onward
  alike s t h roomy := by
    have same := first.alike s t h
    rw [exec_tryCatch] at roomy ⊢
    rw [exec_tryCatch]
    rcases hm : m.exec s with ⟨e | a, u⟩ <;> rw [hm] at same roomy
    · obtain ⟨result, session⟩ := same (((rest e).onward u).roomy roomy)
      have ran : m.exec t = (.error e, (m.exec t).2) := Prod.ext result rfl
      rw [ran]
      exact (rest e).alike u _ session roomy
    · obtain ⟨result, session⟩ := same roomy
      have ran : m.exec t = (.ok a, (m.exec t).2) := Prod.ext result rfl
      rw [ran]
      exact ⟨rfl, session⟩

/-- What is made with a record as the current one. -/
theorem withRecord (r : Value) {m : Run α} (h : Run.Heedless m) :
    Run.Heedless (Run.withRecord r m) where
  onward s := by
    obtain ⟨outlook, stores, roomy⟩ := h.onward (s.withRecords (r :: s.records))
    rw [Session.outlook_withRecords] at outlook
    rw [exec_withRecord]
    exact ⟨(Session.outlook_withRecords _ _).trans outlook, stores, roomy⟩
  alike s t same roomy := by
    have records : s.records = t.records := Session.records_of_shown same.shown
    rw [exec_withRecord] at roomy ⊢
    rw [exec_withRecord, ← records]
    obtain ⟨result, session⟩ := h.alike (s.withRecords (r :: s.records))
      (t.withRecords (r :: s.records)) (same.withRecords _) roomy
    exact ⟨result, session.withRecords _⟩

/-- Writing into the journal. -/
theorem record (source message : String) : Run.Heedless (Run.record source message) where
  onward _ := ⟨Session.outlook_congr rfl rfl rfl, id, id⟩
  alike s t h _ := by
    have kept (s : Session) : ((Run.record source message).exec s).2.outlook = s.outlook :=
      Session.outlook_congr rfl rfl rfl
    exact ⟨rfl, h.shown, by rw [kept, kept, h.outlook], h.stores⟩

/-- Asking the active settings. -/
theorem ask {m : Run α} (asks : Settings.Asks m) : Run.Heedless m := by
  obtain ⟨answer, exec⟩ := asks
  refine ⟨fun s => ?_, fun s t h _ => ?_⟩
  · obtain ⟨active, loads, journal, kept, outlook⟩ := Settings.active_session s
    rw [exec]
    refine ⟨outlook, ?_, ?_⟩ <;> dsimp only <;> rw [kept] <;> exact id
  · obtain ⟨_, _, _, kept, outlook⟩ := Settings.active_session s
    obtain ⟨_, _, _, kept', outlook'⟩ := Settings.active_session t
    rw [exec, exec, h.outlook]
    refine ⟨rfl, ?_, by rw [outlook, outlook', h.outlook], ?_⟩ <;> dsimp only <;>
      rw [kept, kept']
    · exact h.shown
    · exact h.stores

theorem rule (S : Schema) : Run.Heedless (Adapter.rule <$> S.adapter) where
  onward s := by
    rw [exec_map_snd]
    exact S.adapter_onward s
  alike s t h roomy := by
    rw [exec_map_snd] at roomy
    obtain ⟨rules, sessions⟩ := S.adapter_alike h ((S.adapter_onward s).roomy roomy)
    rw [exec_map_snd, exec_map_snd, exec_map_fst, exec_map_fst]
    exact ⟨rules, sessions⟩

/-- A run that goes on from what it can see of the session. -/
theorem get {k : Session → Run β} (rest : ∀ s, Run.Heedless (k s))
    (unseen : ∀ s books, k (Session.withBooks s books) = k s) :
    Run.Heedless ((MonadState.get : Run Session) >>= k) where
  onward s := by
    rw [exec_bind_of_ok (exec_get s)]
    exact (rest s).onward s
  alike s t h roomy := by
    have same : k t = k s := by rw [Session.eq_withBooks_of_shown h.shown, unseen]
    rw [exec_bind_of_ok (exec_get s)] at roomy ⊢
    rw [exec_bind_of_ok (exec_get t), same]
    exact (rest s).alike s t h roomy

theorem require (e : Fault) (r : Option α) : Run.Heedless (Run.require e r) := by
  cases r with
  | some a => exact pure a
  | none => exact throw e

theorem define (name : String) (body : Expr) : Run.Heedless (Predicate.define name body) := by
  refine get (fun s => ?_) fun _ _ => rfl
  split
  · exact pure _
  · exact bind (of_bookless fun _ _ => rfl) fun _ => pure _

theorem named (name : String) : Run.Heedless (Predicate.named name) := by
  refine get (fun s => ?_) fun _ _ => rfl
  split
  · exact pure _
  · exact define name _
  · exact throw _

/-- Each sort of step is heedless. -/
theorem step {m : Run α} (h : m.Step) : Run.Heedless m := by
  cases h with
  | rule S => exact rule S
  | strict => exact ask Settings.activeStrict_asks
  | mode => exact ask Settings.activeMode_asks
  | record source message => exact record source message
  | enter name arguments => exact of_bookless fun _ _ => rfl
  | freshId => exact of_bookless fun _ _ => rfl
  | number v => exact of_bookless fun _ _ => rfl
  | stored name => exact get (fun _ => require _ _) fun _ _ => rfl
  | token name => exact of_bookless fun _ _ => rfl
  | currentRecord => exact get (fun _ => require _ _) fun _ _ => rfl
  | named name => exact named name
  | define name body => exact define name body

/-- What is put together from heedless runs is heedless. -/
theorem closed : Run.Closed fun _ m => Run.Heedless m :=
  ⟨pure, throw, bind, tryCatch, withRecord, step⟩

end Run.Heedless

/-- **Calls heed nothing of it.** In a session in which the settings are loaded and an open schema
is in store, every call comes to the same as in one in which they are not yet, and leaves the
sessions alike; unless the store gets full. -/
theorem callWithin_heedless (depth : Nat) (v : Value) (args : List Value) (kw : Keywords) :
    (callWithin depth v args kw).Heedless :=
  Run.Heedless.closed.callWithin depth v args kw

end CallContract
