import CallContract.Proofs.Constructing
import CallContract.Proofs.Fixed
import CallContract.Proofs.Nesting

/-!
# Checked functions around checked functions

A checked function can be the implementation of another one, and that of another one again. The
outermost of them has a name, and the failures that its own gates find are reported under that name
(`Contract.call_invalid`, `Contract.GateFails.named`). The name that an implementation has of its
own is handed on by every function around it, so that it is still the name of the outermost one. An
implementation without a name goes by the word for its type; this word is not handed on, and from
the second function on the name is the word for checked functions (`wrapped_name`).
-/

namespace CallContract

/-! ### The failures of the gates of a function -/

/-- What a failure tells as the name of a function: what counts as false is none. -/
def Value.reported (name : Value) : Option String :=
  if name.isTruthy then some name.print else name.text?

@[simp] theorem Failure.withContext_function (f : Failure) (b : Boundary) (name : Value) :
    (f.withContext b name).function = name.reported := rfl

@[simp] theorem Failure.withContext_boundary (f : Failure) (b : Boundary) (name : Value) :
    (f.withContext b name).boundary = some b := rfl

namespace Contract

section Gates

variable {apply : Caller} {c mode implementation : Value} {face : Face} {args : List Value}
  {kw : Keywords} {s t : Session} {failure : Failure}

/-- The way into a checked function, whatever its contract and mode are. -/
def entry (apply : Caller) (c mode : Value) (face : Face) (args : List Value) (kw : Keywords) :
    Run (List Value × Keywords) := do
  if ← Run.lift (mode.enforces .args) then gateArgs apply c face args kw else pure (args, kw)

/-- The way back. -/
def exit (apply : Caller) (c mode : Value) (face : Face) (result : Value) : Run Value := do
  if ← Run.lift (mode.enforces .result) then
    let schema ← Run.lift (c.ask Boundary.result.schemaName)
    gate apply .result face.name schema result
  else return result

/-- A call asks for the mode, goes in, calls the implementation and goes back. -/
theorem call_eq_entry_exit (noSelf : kw.has "self" = false) :
    call apply c implementation face args kw = (do
      let mode ← Run.lift (c.ask "mode")
      let passed ← entry apply c mode face args kw
      let result ← apply implementation passed.1 passed.2
      exit apply c mode face result) := by
  unfold call entry exit
  simp only [noSelf, Bool.false_eq_true, if_false, pure_bind, bind_assoc]
  congr
  funext mode
  congr
  funext on
  cases on <;> simp

/-- Whether a gate of a function ends a call of it with a failure: that of the arguments on the way
in, or that of the result, once the implementation has given one. -/
inductive GateFails (apply : Caller) (c implementation : Value) (face : Face) (args : List Value)
    (kw : Keywords) (s : Session) : Failure → Session → Prop
  | args {mode : Value} {failure : Failure} {t : Session} : c.ask "mode" = .ok mode →
    (entry apply c mode face args kw).exec s = (.error (.invalid failure), t) →
    GateFails apply c implementation face args kw s failure t
  | result {mode r : Value} {xs : List Value} {ks : Keywords} {failure : Failure}
      {t u v : Session} : c.ask "mode" = .ok mode →
    (entry apply c mode face args kw).exec s = (.ok (xs, ks), t) →
    (apply implementation xs ks).exec t = (.ok r, u) →
    (exit apply c mode face r).exec u = (.error (.invalid failure), v) →
    GateFails apply c implementation face args kw s failure v

/-- Whether the implementation ends a call with a failure, which is passed on. -/
def PassesOn (apply : Caller) (c implementation : Value) (face : Face) (args : List Value)
    (kw : Keywords) (s : Session) (failure : Failure) (t : Session) : Prop :=
  ∃ mode xs ks u, c.ask "mode" = .ok mode ∧
    (entry apply c mode face args kw).exec s = (.ok (xs, ks), u) ∧
    (apply implementation xs ks).exec u = (.error (.invalid failure), t)

/-- What a value does not have makes no failure. -/
theorem ask_ne_invalid {v : Value} {name : String} : v.ask name ≠ .error (.invalid failure) := by
  unfold Value.ask
  split <;> nofun

theorem enforces_ne_invalid {mode : Value} {b : Boundary} :
    mode.enforces b ≠ .error (.invalid failure) :=
  fun failed => ask_ne_invalid (map_eq_error.mp failed)

/-- A step that asks for something has made no failure. -/
theorem exec_lift_bind_invalid {α β : Type} {r : Except Fault α} {k : α → Run β}
    (sound : r ≠ .error (.invalid failure))
    (failed : (Run.lift r >>= k).exec s = (.error (.invalid failure), t)) :
    ∃ a, r = .ok a ∧ (k a).exec s = (.error (.invalid failure), t) := by
  cases r with
  | error e =>
    rw [Run.exec_bind_of_error (Run.exec_lift _ _)] at failed
    cases failed
    exact absurd rfl sound
  | ok a => exact ⟨a, rfl, failed⟩

/-- A call that ends with a failure has it from a gate of the function or from the
implementation. -/
theorem call_invalid (noSelf : kw.has "self" = false) :
    (call apply c implementation face args kw).exec s = (.error (.invalid failure), t) ↔
      GateFails apply c implementation face args kw s failure t ∨
        PassesOn apply c implementation face args kw s failure t := by
  rw [call_eq_entry_exit noSelf]
  constructor
  · intro failed
    obtain ⟨mode, hmode, failed⟩ := exec_lift_bind_invalid ask_ne_invalid failed
    rcases Run.exec_bind_eq_error.mp failed with failed | ⟨⟨xs, ks⟩, u, passed, failed⟩
    · exact .inl (.args hmode failed)
    rcases Run.exec_bind_eq_error.mp failed with failed | ⟨r, v, ran, failed⟩
    · exact .inr ⟨mode, xs, ks, u, hmode, passed, failed⟩
    · exact .inl (.result hmode passed ran failed)
  · rintro (failed | ⟨mode, xs, ks, u, hmode, passed, failed⟩)
    · cases failed with
      | args hmode failed => rw [hmode, Run.lift_ok, pure_bind, Run.exec_bind_of_error failed]
      | result hmode passed ran failed =>
        rw [hmode, Run.lift_ok, pure_bind, Run.exec_bind_of_ok passed, Run.exec_bind_of_ok ran,
          failed]
    · rw [hmode, Run.lift_ok, pure_bind, Run.exec_bind_of_ok passed, Run.exec_bind_of_error failed]

/-- A failure that leaves a gate tells its boundary and the name of the function. -/
theorem gate_named {b : Boundary} {name schema v : Value}
    (failed : (gate apply b name schema v).exec s = (.error (.invalid failure), t)) :
    failure.boundary = some b ∧ failure.function = name.reported := by
  obtain ⟨f, -, -, rfl⟩ := exec_gate_eq_invalid failed
  exact ⟨f.withContext_boundary b name, f.withContext_function b name⟩

theorem gateArgs_named
    (failed : (gateArgs apply c face args kw).exec s = (.error (.invalid failure), t)) :
    failure.boundary = some .args ∧ failure.function = face.name.reported := by
  unfold gateArgs at failed
  split at failed
  · cases failed
  · obtain ⟨schema, -, failed⟩ := exec_lift_bind_invalid ask_ne_invalid failed
    rcases Run.exec_bind_eq_error.mp failed with failed | ⟨w, u, -, failed⟩
    · exact gate_named failed
    · cases hw : w.iterate? <;> rw [hw] at failed <;> cases failed

theorem entry_named {mode : Value}
    (failed : (entry apply c mode face args kw).exec s = (.error (.invalid failure), t)) :
    failure.boundary = some .args ∧ failure.function = face.name.reported := by
  obtain ⟨on, -, failed⟩ := exec_lift_bind_invalid enforces_ne_invalid failed
  split at failed
  · exact gateArgs_named failed
  · cases failed

theorem exit_named {mode r : Value}
    (failed : (exit apply c mode face r).exec s = (.error (.invalid failure), t)) :
    failure.boundary = some .result ∧ failure.function = face.name.reported := by
  obtain ⟨on, -, failed⟩ := exec_lift_bind_invalid enforces_ne_invalid failed
  split at failed
  · obtain ⟨schema, -, failed⟩ := exec_lift_bind_invalid ask_ne_invalid failed
    exact gate_named failed
  · cases failed

/-- A failure of a gate tells a boundary and the name that the function goes by. -/
theorem GateFails.named (failed : GateFails apply c implementation face args kw s failure t) :
    failure.boundary ≠ none ∧ failure.function = face.name.reported := by
  cases failed with
  | args _ failed =>
    obtain ⟨boundary, named⟩ := entry_named failed
    exact ⟨boundary ▸ nofun, named⟩
  | result _ _ _ failed =>
    obtain ⟨boundary, named⟩ := exit_named failed
    exact ⟨boundary ▸ nofun, named⟩

end Gates

end Contract

/-! ### Functions around functions -/

/-- Whether a checked function has been made of an implementation in one of the ways to do so: by
the unchecked constructor, at the end of a chain of steps, or at once from all parts. -/
inductive Wraps (f g : Value) : Prop
  | constructed {c : Value} {s t : Session} : (Contract.checked c f).exec s = (.ok g, t) → Wraps f g
  | implemented {c : Contract} {s t : Session} : (c.implement f).exec s = (.ok g, t) → Wraps f g
  | made {args returns : Option Value} {mode : Value} {s t : Session} : f ≠ .null →
    (Contract.make args returns f mode).exec s = (.ok g, t) → Wraps f g

/-- Whether a function is the outermost of so many checked functions, one around the other, with an
implementation in the innermost. -/
inductive Encloses (f : Value) : Nat → Value → Prop
  | once {g : Value} : Wraps f g → Encloses f 1 g
  | again {n : Nat} {g h : Value} : Encloses f n g → Wraps g h → Encloses f (n + 1) h

/-- The outermost function is a checked function around something. -/
theorem Encloses.wraps {f g : Value} {n : Nat} (encloses : Encloses f n g) : ∃ h, Wraps h g := by
  cases encloses with
  | once wraps => exact ⟨f, wraps⟩
  | again _ wraps => exact ⟨_, wraps⟩

/-- A contract that has a mode can be put around anything. -/
theorem Contract.exists_checked {c mode : Value} (hmode : c.attribute? "mode" = some mode)
    (given : mode ≠ .null) (f : Value) (s : Session) :
    ∃ t, (checked c f).exec s = (.ok (.function (.checked s.next c f f.face)), t) := by
  unfold checked
  rw [hmode]
  cases mode with
  | null => exact absurd rfl given
  | _ => exact ⟨_, rfl⟩

theorem Contract.checked_eq_ok {c f g : Value} {s t : Session}
    (made : (checked c f).exec s = (.ok g, t)) :
    ∃ id, g = .function (.checked id c f f.face) := by
  unfold checked at made
  split at made
  · cases made
  · cases made
  · obtain ⟨id, _, -, made⟩ := Run.exec_bind_eq_ok.mp made
    exact ⟨id, (Run.exec_pure_eq_ok.mp made).1.symm⟩

/-- In each of the ways, what is made shows the face of its implementation. -/
theorem Wraps.eq_checked {f g : Value} (wraps : Wraps f g) :
    ∃ id c, g = .function (.checked id c f f.face) := by
  have implemented {c : Contract} {s t : Session} (made : (c.implement f).exec s = (.ok g, t)) :
      ∃ id c, g = .function (.checked id c f f.face) := by
    obtain ⟨id, mode, -, rfl⟩ := Contract.implement_eq_ok made
    exact ⟨id, _, rfl⟩
  cases wraps with
  | constructed made =>
    obtain ⟨id, rfl⟩ := Contract.checked_eq_ok made
    exact ⟨id, _, rfl⟩
  | implemented made => exact implemented made
  | made given made =>
    rw [Contract.make_eq_finish] at made
    obtain ⟨c, u, -, made⟩ := Run.exec_bind_eq_ok.mp made
    rw [Contract.finish_of_given given] at made
    exact implemented made

/-! ### Names -/

/-- The name of the outermost of so many checked functions: the one under which the first of them
reports, or the word for checked functions if there is no name to hand on. -/
def Value.nameWithin (f : Value) (n : Nat) : Value :=
  if n = 1 then f.calledName else f.ownName?.getD (.text "CheckedFunction")

/-- A checked function goes by the name under which its implementation is called. -/
theorem Wraps.name {f g : Value} (wraps : Wraps f g) : g.attribute? "name" = some f.calledName := by
  obtain ⟨id, c, rfl⟩ := wraps.eq_checked
  rfl

/-- The own name of the implementation is handed on. -/
theorem Wraps.ownName {f g : Value} (callable : f.isCallable = true) (wraps : Wraps f g) :
    g.isCallable = true ∧ g.ownName? = f.ownName? ∧ g.kindName = "CheckedFunction" := by
  obtain ⟨id, c, rfl⟩ := wraps.eq_checked
  refine ⟨rfl, ?_, rfl⟩
  rw [← Value.attribute?_name callable, ← Value.lookup_identity]
  rfl

/-- So it is handed on by all of them. -/
theorem Encloses.ownName {f g : Value} {n : Nat} (callable : f.isCallable = true)
    (encloses : Encloses f n g) :
    g.isCallable = true ∧ g.ownName? = f.ownName? ∧ g.kindName = "CheckedFunction" := by
  induction encloses with
  | once wraps => exact wraps.ownName callable
  | again _ wraps ih =>
    obtain ⟨callable, own, -⟩ := ih
    obtain ⟨callable', own', kind⟩ := wraps.ownName callable
    exact ⟨callable', own'.trans own, kind⟩

/-- The name of the outermost function. -/
theorem Encloses.name {f g : Value} {n : Nat} (callable : f.isCallable = true)
    (encloses : Encloses f n g) : g.attribute? "name" = some (f.nameWithin n) := by
  cases encloses with
  | once wraps => exact wraps.name
  | @again n h g encloses wraps =>
    obtain ⟨-, own, kind⟩ := encloses.ownName callable
    have several : n + 1 ≠ 1 := by cases encloses <;> omega
    rw [wraps.name, Value.calledName, own, kind, Value.nameWithin, if_neg several]

/-- **The name of the outermost function.** Put so many checked functions around an implementation,
one around the other. The outermost goes by the name that the implementation has of its own; without
one, the first function goes by the word for the type of the implementation, and any other by the
word for checked functions. So it has the same name as a single function around the implementation
unless there are several and the implementation has no name and is no checked function itself. A
call that ends with a failure has it from the implementation of the outermost function or from a
gate of its own, and then it is reported under the name of the outermost function. -/
theorem wrapped_name {f g : Value} {n : Nat} (callable : f.isCallable = true)
    (encloses : Encloses f n g) :
    g.attribute? "name" = some (f.nameWithin n) ∧
    (∀ single, Wraps f single → (g.attribute? "name" = single.attribute? "name" ↔
      n = 1 ∨ f.attribute? nameAttribute ≠ none ∨ f.kindName = "CheckedFunction")) ∧
    ∃ id c implementation face, g = .function (.checked id c implementation face) ∧
      ∀ depth args (kw : Keywords) s failure t, kw.has "self" = false →
        ((callWithin (depth + 1) g args kw).exec s = (.error (.invalid failure), t) ↔
          Contract.GateFails (callWithin depth) c implementation face args kw s failure t ∨
            Contract.PassesOn (callWithin depth) c implementation face args kw s failure t) ∧
        (Contract.GateFails (callWithin depth) c implementation face args kw s failure t →
          failure.boundary ≠ none ∧ failure.function = (f.nameWithin n).reported) := by
  have named := encloses.name callable
  refine ⟨named, fun single wraps => ?_, ?_⟩
  · rw [named, wraps.name, Option.some_inj, Value.attribute?_name callable, Value.nameWithin]
    by_cases lone : n = 1
    · simp [lone]
    · rw [if_neg lone, Value.calledName]
      cases f.ownName? <;> simp [lone, eq_comm]
  · obtain ⟨implementation, wraps⟩ := encloses.wraps
    obtain ⟨id, c, rfl⟩ := wraps.eq_checked
    have shown : implementation.face.name = f.nameWithin n := Option.some.inj named
    refine ⟨id, c, implementation, _, rfl, fun depth args kw s failure t noSelf => ?_⟩
    rw [callWithin_succ, Value.callBy, Function.callBy, ← shown]
    exact ⟨Contract.call_invalid noSelf, Contract.GateFails.named⟩

/-- A checked function that takes one whole number. -/
def gatingNumber (id : Nat) (f : Value) : Value :=
  Contract.withBoth (.tuple .fresh [.primitive .fresh (.type .int)]) (.schema .anything) f id

theorem wraps_gatingNumber (id : Nat) (f : Value) : Wraps f (gatingNumber id f) := by
  let c := Contract.ofParts (.tuple .fresh [.primitive .fresh (.type .int)]) (.schema .anything)
    .both
  have hmode : (Value.contract c).attribute? "mode" = some (.mode .both) := rfl
  obtain ⟨t, made⟩ := Contract.exists_checked hmode nofun f { Session.start with next := id }
  exact .constructed made

theorem wrapped_name_length :
    let f := Value.function (.builtin .len)
    let g := gatingNumber 5 (gatingNumber 4 f)
    f.isCallable = true ∧ Encloses f 2 g ∧ g.attribute? "name" = some (.text "len") ∧
      g.attribute? "name" = (gatingNumber 4 f).attribute? "name" := by
  intro f g
  have callable : f.isCallable = true := rfl
  have encloses : Encloses f 2 g := .again (.once (wraps_gatingNumber 4 f)) (wraps_gatingNumber 5 _)
  obtain ⟨named, same, -⟩ := wrapped_name callable encloses
  exact ⟨callable, encloses, named,
    (same _ (wraps_gatingNumber 4 f)).mpr (.inr (.inl nofun))⟩

/-- A partial application has no name: the failures of a single function around it name its type,
those of a second function around that one do not. -/
theorem nameless_renamed :
    let f := Value.function (.applied 3 (.function (.builtin .len)) [])
    let single := gatingNumber 4 f
    let double := gatingNumber 5 single
    let u := { Session.start with active := some strictSettings }
    f.isCallable = true ∧ Encloses f 1 single ∧ Encloses f 2 double ∧
      single.attribute? "name" = some (.text "partial") ∧
      double.attribute? "name" = some (.text "CheckedFunction") ∧
      ((callWithin 1 single [.text "x"] []).exec u).1 =
        .error (.invalid ⟨[⟨[.index 0], .mismatch .int, .text "x"⟩], some .args,
          some "partial"⟩) ∧
      ((callWithin 1 double [.text "x"] []).exec u).1 =
        .error (.invalid ⟨[⟨[.index 0], .mismatch .int, .text "x"⟩], some .args,
          some "CheckedFunction"⟩) := by
  intro f single double u
  exact ⟨rfl, .once (wraps_gatingNumber 4 f),
    .again (.once (wraps_gatingNumber 4 f)) (wraps_gatingNumber 5 _), rfl, rfl, rfl, rfl⟩

end CallContract
