import CallContract.Session

/-!
# Running computations

`Run.exec m s` is what comes of the computation `m` in the session `s`: a result or a fault, and
the session after it. There is one equation for each way to build a computation, so that proofs
about runs never look into the monad.
-/

namespace CallContract

variable {α β : Type}

/-- Two steps give a result together exactly if the first gives one and the second gives it from
that. -/
theorem bind_eq_ok {ε : Type} {x : Except ε α} {f : α → Except ε β} {b : β} :
    (x >>= f) = .ok b ↔ ∃ a, x = .ok a ∧ f a = .ok b := by
  cases x with
  | error e =>
    constructor
    · intro h
      cases h
    · rintro ⟨_, h, _⟩
      cases h
  | ok a =>
    constructor
    · exact fun h => ⟨a, rfl, h⟩
    · rintro ⟨_, h, hb⟩
      cases h
      exact hb

/-- Two steps end with a fault exactly if the first does, or gives a result from which the second
does. -/
theorem bind_eq_error {ε : Type} {x : Except ε α} {f : α → Except ε β} {e : ε} :
    (x >>= f) = .error e ↔ x = .error e ∨ ∃ a, x = .ok a ∧ f a = .error e := by
  cases x with
  | error e' =>
    constructor
    · rintro ⟨⟩
      exact .inl rfl
    · rintro (⟨⟨⟩⟩ | ⟨_, ⟨⟩, _⟩)
      rfl
  | ok a =>
    constructor
    · exact fun h => .inr ⟨a, rfl, h⟩
    · rintro (⟨⟨⟩⟩ | ⟨_, ⟨⟩, h⟩)
      exact h

theorem map_eq_ok {ε : Type} {x : Except ε α} {g : α → β} {y : β} :
    x.map g = .ok y ↔ ∃ a, x = .ok a ∧ g a = y := by
  cases x <;> simp [Except.map]

theorem map_eq_error {ε : Type} {x : Except ε α} {g : α → β} {e : ε} :
    x.map g = .error e ↔ x = .error e := by
  cases x with
  | error e' =>
    show Except.error e' = _ ↔ _
    rw [Except.error.injEq, Except.error.injEq]
  | ok a => exact iff_of_false nofun nofun

/-- What comes of a computation in a session, and the session after it. -/
def Run.exec (m : Run α) (s : Session) : Except Fault α × Session := StateT.run (ExceptT.run m) s

namespace Run

theorem ext_exec {m n : Run α} (h : ∀ s, m.exec s = n.exec s) : m = n := funext h

@[simp] theorem exec_pure (a : α) (s : Session) : (pure a : Run α).exec s = (.ok a, s) := rfl

@[simp] theorem exec_throw (f : Fault) (s : Session) :
    (throw f : Run α).exec s = (.error f, s) := rfl

theorem exec_pure_eq_ok {a b : α} {s t : Session} :
    (pure a : Run α).exec s = (.ok b, t) ↔ a = b ∧ s = t := by
  rw [exec_pure, Prod.mk.injEq, Except.ok.injEq]

theorem exec_bind (m : Run α) (k : α → Run β) (s : Session) :
    (m >>= k).exec s = match m.exec s with
      | (.ok a, t) => (k a).exec t
      | (.error f, t) => (.error f, t) := by
  unfold exec ExceptT.run StateT.run
  simp only [Bind.bind, ExceptT.bind, ExceptT.mk, StateT.bind, ExceptT.bindCont]
  rcases m s with ⟨_ | _, t⟩ <;> rfl

theorem throw_bind (e : Fault) (k : α → Run β) : (throw e >>= k) = throw e :=
  ext_exec fun _ => rfl

theorem exec_map (g : α → β) (m : Run α) (s : Session) :
    (g <$> m).exec s = match m.exec s with
      | (.ok a, t) => (.ok (g a), t)
      | (.error f, t) => (.error f, t) := by
  unfold exec ExceptT.run StateT.run
  simp only [Functor.map, ExceptT.map, ExceptT.mk, Bind.bind, StateT.bind]
  rcases m s with ⟨_ | _, t⟩ <;> rfl

theorem exec_map_fst (g : α → β) (m : Run α) (s : Session) :
    ((g <$> m).exec s).1 = (m.exec s).1.map g := by
  rw [exec_map]
  rcases m.exec s with ⟨_ | _, t⟩ <;> rfl

theorem exec_map_snd (g : α → β) (m : Run α) (s : Session) :
    ((g <$> m).exec s).2 = (m.exec s).2 := by
  rw [exec_map]
  rcases m.exec s with ⟨_ | _, t⟩ <;> rfl

theorem exec_tryCatch (m : Run α) (h : Fault → Run α) (s : Session) :
    (tryCatch m h).exec s = match m.exec s with
      | (.ok a, t) => (.ok a, t)
      | (.error f, t) => (h f).exec t := by
  unfold exec ExceptT.run StateT.run
  simp only [tryCatch, tryCatchThe, MonadExceptOf.tryCatch, ExceptT.tryCatch, ExceptT.mk, Bind.bind,
    StateT.bind]
  rcases m s with ⟨_ | _, t⟩ <;> rfl

theorem exec_bind_of_ok {m : Run α} {k : α → Run β} {s t : Session} {a : α}
    (h : m.exec s = (.ok a, t)) : (m >>= k).exec s = (k a).exec t := by
  rw [exec_bind, h]

theorem exec_bind_of_error {m : Run α} {k : α → Run β} {s t : Session} {e : Fault}
    (h : m.exec s = (.error e, t)) : (m >>= k).exec s = (.error e, t) := by
  rw [exec_bind, h]

/-- A run that goes well is one whose first part goes well and whose rest goes well after it. -/
theorem exec_bind_eq_ok {m : Run α} {k : α → Run β} {s u : Session} {b : β} :
    (m >>= k).exec s = (.ok b, u) ↔ ∃ a t, m.exec s = (.ok a, t) ∧ (k a).exec t = (.ok b, u) := by
  rw [exec_bind]
  rcases m.exec s with ⟨_ | a, t⟩
  · simp
  · constructor
    · exact fun h => ⟨a, t, rfl, h⟩
    · rintro ⟨_, _, ⟨rfl, rfl⟩, h⟩
      exact h

/-- A run that ends with a fault is one whose first part does, or whose rest does after it. -/
theorem exec_bind_eq_error {m : Run α} {k : α → Run β} {s u : Session} {e : Fault} :
    (m >>= k).exec s = (.error e, u) ↔
      m.exec s = (.error e, u) ∨ ∃ a t, m.exec s = (.ok a, t) ∧ (k a).exec t = (.error e, u) := by
  rw [exec_bind]
  rcases m.exec s with ⟨e' | a, t⟩
  · constructor
    · rintro ⟨⟩
      exact .inl rfl
    · rintro (⟨⟨⟩⟩ | ⟨_, _, ⟨⟩, -⟩)
      rfl
  · constructor
    · exact fun failed => .inr ⟨a, t, rfl, failed⟩
    · rintro (⟨⟨⟩⟩ | ⟨_, _, ⟨⟩, failed⟩)
      exact failed

theorem exec_bind_fst_eq_error {m : Run α} {k : α → Run β} {s : Session}
    {e : Fault} :
    ((m >>= k).exec s).1 = .error e ↔
      (m.exec s).1 = .error e ∨ ∃ a t, m.exec s = (.ok a, t) ∧ ((k a).exec t).1 = .error e := by
  constructor
  · intro failed
    rcases exec_bind_eq_error.mp (Prod.ext failed rfl) with first | ⟨a, t, ran, rest⟩
    · exact .inl (congrArg Prod.fst first)
    · exact .inr ⟨a, t, ran, congrArg Prod.fst rest⟩
  · rintro (first | ⟨a, t, ran, rest⟩)
    · rw [exec_bind_of_error (Prod.ext first rfl)]
    · rw [exec_bind_of_ok ran, rest]

@[simp] theorem exec_get (s : Session) : (get : Run Session).exec s = (.ok s, s) := rfl

@[simp] theorem exec_set (t s : Session) : (set t : Run Unit).exec s = (.ok (), t) := rfl

@[simp] theorem exec_modify (g : Session → Session) (s : Session) :
    (modify g : Run Unit).exec s = (.ok (), g s) := rfl

@[simp] theorem exec_lift (r : Except Fault α) (s : Session) : (lift r).exec s = (r, s) := by
  cases r <;> rfl

@[simp] theorem lift_ok (a : α) : lift (.ok a) = pure a := rfl

@[simp] theorem require_some (fault : Fault) (a : α) : require fault (some a) = pure a := rfl

@[simp] theorem require_none (fault : Fault) : (require fault none : Run α) = throw fault := rfl

end Run

end CallContract
