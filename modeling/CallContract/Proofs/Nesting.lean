import CallContract.Contract.Building
import CallContract.Proofs.Calling
import CallContract.Proofs.Gates
import CallContract.Proofs.Rebinding

/-!
# One gate within the other

A function with both gates does what two functions do that have one gate each: the inner one gates
the result, and the outer one the arguments (`Contract.nested`). They do the same down to the
session, so that the trace and the journal are the same as well (`nested_gates`). Only that calls
are nested one deeper makes a difference, where they are nested too deeply.
-/

namespace CallContract

/-! ### Runs that may nest deeper -/

/-- Whether a run does what another does, unless calls are nested too deeply for that one. -/
def Run.Below {α : Type} (m n : Run α) : Prop :=
  ∀ s, (m.exec s).1 ≠ .error .tooDeep → n.exec s = m.exec s

namespace Run.Below

variable {α β : Type}

theorem refl (m : Run α) : m.Below m := fun _ _ => rfl

theorem bind {m n : Run α} {k l : α → Run β} (first : m.Below n) (rest : ∀ a, (k a).Below (l a)) :
    (m >>= k).Below (n >>= l) := by
  intro s ends
  rcases hm : m.exec s with ⟨e | a, t⟩
  · rw [exec_bind_of_error hm] at ends ⊢
    refine exec_bind_of_error ((first s ?_).trans hm)
    rw [hm]
    rintro ⟨⟩
    exact ends rfl
  · rw [exec_bind_of_ok hm] at ends ⊢
    rw [exec_bind_of_ok ((first s (by simp [hm])).trans hm)]
    exact rest a t ends

theorem tryCatch {m n : Run α} {h : Fault → Run α} (first : m.Below n)
    (deep : h .tooDeep = MonadExcept.throw .tooDeep) :
    (MonadExcept.tryCatch m h).Below (MonadExcept.tryCatch n h) := by
  intro s ends
  have passed : (m.exec s).1 ≠ .error .tooDeep := by
    intro failed
    rcases hm : m.exec s with ⟨e | a, t⟩
    · rw [hm] at failed
      obtain rfl : e = .tooDeep := Except.error.inj failed
      rw [exec_tryCatch, hm] at ends
      exact ends (congrArg (fun n : Run α => (n.exec t).1) deep)
    · rw [hm] at failed
      cases failed
  rw [exec_tryCatch, exec_tryCatch, first s passed]

theorem linking : Linking fun _ => Run.Below where
  pure _ := refl _
  throw _ := refl _
  bind := bind
  tryCatch first _ deep := tryCatch first deep
  withRecord _ _ _ := refl _
  step _ := refl _

end Run.Below

/-- A call that may nest deeper does the same, unless calls were nested too deeply before. -/
theorem callWithin_below (depth k : Nat) (v : Value) (args : List Value) (kw : Keywords) :
    (callWithin depth v args kw).Below (callWithin (depth + k) v args kw) :=
  Run.Below.linking.callWithin k (fun _ _ _ _ ends => absurd rfl ends) depth v args kw

/-! ### What is told of what is wrapped -/

/-- The name that can be asked of a value that can be called is its own. -/
theorem Value.attribute?_name {v : Value} (callable : v.isCallable = true) :
    v.attribute? nameAttribute = v.ownName? := by
  cases v with
  | type t => rfl
  | form l f xs => rfl
  | function f =>
    cases f with
    | defined id d =>
      show d.part? nameAttribute = if d.kind = .object then d.attributes.lookup nameAttribute else _
      delta Definition.part?
      split
      · exact Option.or_none
      · rfl
    | applied id inner fields => exact Option.or_none
    | _ => rfl
  | _ => cases callable

/-- What is asked under some names is found under each of them. -/
theorem lookup_filterMap (g : String → Option Value) (names : List String) (n : String) :
    (names.filterMap fun m => (g m).map fun a => (m, a)).lookup n =
      if n ∈ names then g n else none := by
  induction names with
  | nil => rfl
  | cons m names ih =>
    by_cases same : n = m
    · subst same
      cases found : g n <;> simp [found, ih]
    · cases found : g m <;> simp [found, ih, same, List.lookup_cons, beq_eq_false_iff_ne.mpr same]

/-- A checked function takes over the name of its implementation. -/
theorem Value.lookup_identity (v : Value) :
    v.identity.lookup nameAttribute = v.attribute? nameAttribute := by
  rw [identity, lookup_filterMap, if_pos (by simp [identityNames, nameAttribute])]

/-- A checked function reports under the name of its implementation, if that has one. -/
theorem calledName_checked {f name : Value} (callable : f.isCallable = true)
    (named : f.attribute? nameAttribute = some name) (id : Nat) (c : Value) :
    (Value.function (.checked id c f f.face)).calledName = f.calledName := by
  have own : f.ownName? = some name := by rw [← Value.attribute?_name callable, named]
  rw [Value.calledName, Value.calledName, own, Value.ownName?, Function.ownName?, Value.face,
    Value.lookup_identity, named]
  rfl

theorem Value.ne_null_of_callable {v : Value} (callable : v.isCallable = true) : v ≠ .null := by
  rintro rfl
  cases callable

namespace Contract

/-! ### Making functions with gates -/

/-- A contract with all its parts set. -/
def ofParts (args : Schema) (returns : Value) (m : Mode) : Contract :=
  ⟨.fresh, args, promote returns, .known m⟩

theorem make_eq_implement {args returns f : Value} {m : Mode} (given : f ≠ .null) :
    make (some args) (some returns) f (.mode m) =
      Run.lift (argsSchema args) >>= fun schema => (ofParts schema returns m).implement f := by
  unfold make
  simp only [withMode, Value.asMode_mode, Run.lift_ok, pure_bind]
  cases f with
  | null => exact absurd rfl given
  | _ => rfl

theorem implement_ofParts (schema : Schema) (returns : Value) (m : Mode) {f : Value}
    (callable : f.isCallable = true) :
    (ofParts schema returns m).implement f = (do
      let id ← Run.freshId
      let shown ← Run.lift f.calledName.tell
      Run.record source ("[CONTRACT] Implemented " ++ shown ++ " (mode=" ++ m.word ++ ")")
      return .function (.checked id (.contract (ofParts schema returns m)) f f.face)) := by
  unfold implement
  simp only [callable, Bool.not_true, Bool.false_eq_true, if_false]
  rfl

/-- What is made of an implementation: it can be called, its name can be told, and it is joined to
the contract. -/
theorem make_eq_ok {args returns f g : Value} {m : Mode} {s t : Session} (given : f ≠ .null) :
    (make (some args) (some returns) f (.mode m)).exec s = (.ok g, t) ↔
      ∃ schema shown, argsSchema args = .ok schema ∧ f.isCallable = true ∧
        f.calledName.tell = .ok shown ∧
        g = .function (.checked s.next (.contract (ofParts schema returns m)) f f.face) ∧
        t = { s with
          next := s.next + 1
          journal := s.journal.add ⟨source,
            "[CONTRACT] Implemented " ++ shown ++ " (mode=" ++ m.word ++ ")"⟩ } := by
  rw [make_eq_implement given]
  cases argsSchema args with
  | error e => simp [Run.lift]
  | ok schema =>
    rw [Run.lift_ok, pure_bind]
    cases callable : f.isCallable with
    | false => simp [implement, callable]
    | true =>
      rw [implement_ofParts schema returns m callable]
      cases f.calledName.tell with
      | error e => simp [Run.exec_bind, Run.freshId]
      | ok shown =>
        rw [Run.lift_ok]
        constructor
        · rintro ⟨⟩
          exact ⟨schema, shown, rfl, rfl, rfl, rfl, rfl⟩
        · rintro ⟨_, _, ⟨⟩, -, ⟨⟩, rfl, rfl⟩
          rfl

/-- A function with one gate for its result, within a function with one gate for the arguments. -/
def nested (args returns implementation : Value) : Run Value := do
  let inner ← make (some (.schema .anything)) (some returns) implementation (.mode .ret)
  make (some args) (some (.schema .anything)) inner (.mode .args)

/-! ### The stages of the two calls -/

section Stages

variable {apply : Caller} {c c' : Contract} {m m' : Mode} {face face' : Face}

/-- The way in depends on the schema for the arguments, and on what the gate tells and binds by. -/
theorem inward_congr (args : c.args = c'.args) (enforced : m.enforces .args = m'.enforces .args)
    (name : face.name = face'.name) (signature : face.signature = face'.signature)
    (xs : List Value) (kw : Keywords) :
    inward apply c m face xs kw = inward apply c' m' face' xs kw := by
  unfold inward gateArgs
  simp only [ask_args, args, enforced, name, signature]

/-- No keyword comes up on the way in. -/
theorem has_of_inward {xs ys : List Value} {kw ks : Keywords} {s t : Session} {n : String}
    (passed : (inward apply c m face xs kw).exec s = (.ok (ys, ks), t))
    (absent : kw.has n = false) : ks.has n = false := by
  cases on : m.enforces .args with
  | false =>
    rw [inward, on] at passed
    cases passed
    exact absent
  | true =>
    obtain ⟨_, _, bound, -⟩ := exec_inward_eq_ok on passed
    exact Keywords.Among.not_has (bindKeywords_among bound) absent

/-- The stages of a call with both gates, where what the first gate calls may be nested more or less
deeply than what the implementation and the second gate call. -/
def stages (before after : Caller) (c : Contract) (face : Face) (f : Value) (xs : List Value)
    (kw : Keywords) : Run Value := do
  let passed ← inward before c .both face xs kw
  let result ← after f passed.1 passed.2
  outward after c .both face result

theorem stages_below (c : Contract) (face : Face) (f : Value) (xs : List Value) (kw : Keywords)
    (before before' after after' : Nat) :
    (stages (callWithin before) (callWithin after) c face f xs kw).Below
      (stages (callWithin (before + before')) (callWithin (after + after')) c face f xs kw) := by
  refine .bind ?_ fun passed => .bind (callWithin_below _ _ _ _ _) fun result => ?_
  · unfold inward
    split
    · exact Run.Below.linking.gateArgs (callWithin_below before before') _ _ _ _
    · exact .refl _
  · unfold outward
    split
    · exact Run.Below.linking.gate (callWithin_below after after') _ _ _ _
    · exact .refl _

end Stages

section Calls

variable (schema : Schema) (returns f : Value) {name : Value} (id id' : Nat) (depth : Nat)
  (xs : List Value) {kw : Keywords}

/-- A function with both gates. -/
def withBoth : Value :=
  .function (.checked id (.contract (ofParts schema returns .both)) f f.face)

/-- A function with a gate for its result. -/
def withResult : Value :=
  .function (.checked id (.contract (ofParts .anything returns .ret)) f f.face)

/-- A function with a gate for the arguments, around the one with a gate for its result. -/
def withArguments : Value :=
  .function (.checked id' (.contract (ofParts schema (.schema .anything) .args))
    (withResult returns f id) (withResult returns f id).face)

theorem callWithin_withBoth (noSelf : kw.has "self" = false) :
    callWithin (depth + 1) (withBoth schema returns f id) xs kw =
      stages (callWithin depth) (callWithin depth) (ofParts schema returns .both) f.face f xs
        kw := by
  rw [withBoth, callWithin_eq_stages _ _ _ _ _ rfl noSelf]
  rfl

theorem callWithin_withResult (noSelf : kw.has "self" = false) :
    callWithin (depth + 1) (withResult returns f id) xs kw =
      (do
        let result ← callWithin depth f xs kw
        outward (callWithin depth) (ofParts schema returns .both) .both f.face result) := by
  rw [withResult, callWithin_eq_stages _ _ _ _ _ rfl noSelf]
  rfl

theorem callWithin_withArguments (callable : f.isCallable = true)
    (named : f.attribute? nameAttribute = some name) (noSelf : kw.has "self" = false) :
    callWithin (depth + 2) (withArguments schema returns f id id') xs kw =
      stages (callWithin (depth + 1)) (callWithin depth) (ofParts schema returns .both) f.face f xs
        kw := by
  rw [withArguments, callWithin_eq_stages _ _ _ _ _ rfl noSelf]
  have signature : (withResult returns f id).signature? = f.signature? := by
    rw [withResult, Value.signature?, Function.signature?_checked]
  have inward_eq :
      inward (callWithin (depth + 1)) (ofParts schema (.schema .anything) .args) .args
          (withResult returns f id).face xs kw =
        inward (callWithin (depth + 1)) (ofParts schema returns .both) .both f.face xs kw :=
    inward_congr rfl rfl (calledName_checked callable named _ _) signature xs kw
  have outward_eq : outward (callWithin (depth + 1)) (ofParts schema (.schema .anything) .args)
    .args (withResult returns f id).face = pure := rfl
  rw [inward_eq, outward_eq]
  refine Run.ext_exec fun s => ?_
  rw [stages, Run.exec_bind, Run.exec_bind]
  rcases passed : (inward (callWithin (depth + 1)) (ofParts schema returns .both) .both f.face xs
    kw).exec s with ⟨e | ⟨ys, ks⟩, t⟩
  · rfl
  · dsimp only
    rw [callWithin_withResult schema returns f id depth ys (has_of_inward passed noSelf), bind_pure]

end Calls

/-- **The gates of a function are independent and go together.** Take an implementation that has a
name and of which a function with both gates can be made. Then a function with a gate for the
result can be made of it, and of this one a function with a gate for the arguments. All calls of
the function with both gates and of the nested one come to the same: the same result or fault in
the same session, with the same entries in the trace and the journal. Where calls are nested too
deeply for the one, the other may still come to something, as it nests calls more or less deeply. -/
theorem nested_gates {args returns f name both : Value}
    (named : f.attribute? nameAttribute = some name) {s t : Session}
    (made : (make (some args) (some returns) f (.mode .both)).exec s = (.ok both, t))
    (s' : Session) : ∃ outer t', (nested args returns f).exec s' = (.ok outer, t') ∧
      ∀ (depth : Nat) (xs : List Value) (kw : Keywords) (u : Session),
        let called := (callWithin (depth + 1) both xs kw).exec u
        let calledNested := (callWithin (depth + 2) outer xs kw).exec u
        (called.1 ≠ .error .tooDeep → calledNested = called) ∧
        (calledNested.1 ≠ .error .tooDeep →
          (callWithin (depth + 2) both xs kw).exec u = calledNested) := by
  have given : f ≠ .null := by
    rintro rfl
    cases named
  obtain ⟨schema, shown, hargs, callable, told, rfl, -⟩ := (make_eq_ok given).mp made
  -- Both functions can be made, under the name of the implementation.
  obtain ⟨t', inner⟩ : ∃ t', (make (some (.schema .anything)) (some returns) f
      (.mode .ret)).exec s' = (.ok (withResult returns f s'.next), t') :=
    ⟨_, (make_eq_ok given).mpr ⟨.anything, shown, rfl, callable, told, rfl, rfl⟩⟩
  obtain ⟨u', outer⟩ : ∃ u', (make (some args) (some (.schema .anything))
      (withResult returns f s'.next) (.mode .args)).exec t' =
        (.ok (withArguments schema returns f s'.next t'.next), u') := by
    have told : (withResult returns f s'.next).calledName.tell = .ok shown := by
      rw [withResult, calledName_checked callable named, told]
    have callable : (withResult returns f s'.next).isCallable = true := rfl
    exact ⟨_, (make_eq_ok (Value.ne_null_of_callable callable)).mpr
      ⟨schema, shown, hargs, callable, told, rfl, rfl⟩⟩
  refine ⟨_, u', (Run.exec_bind_of_ok inner).trans outer, fun depth xs kw u => ?_⟩
  cases self : kw.has "self" with
  | true =>
    have refused (v : Value) (face : Face) (implementation : Value) (id k : Nat) :
        callWithin (k + 1) (.function (.checked id v implementation face)) xs kw =
          throw .wrongType := by
      refine Run.ext_exec fun w => ?_
      rw [callWithin_succ, Value.callBy, Function.callBy, call_eq_pipeline]
      exact pipeline_refuses_self self v _
    constructor
    · intro _
      rw [withArguments, refused, refused]
    · intro _
      rw [withArguments, refused, refused]
  | false =>
    have both (k : Nat) := callWithin_withBoth schema returns f s.next k xs self
    have nest := callWithin_withArguments schema returns f s'.next t'.next depth xs callable named
      self
    have below := stages_below (ofParts schema returns .both) f.face f xs kw
    rw [← withBoth, both, both, nest]
    exact ⟨below depth 1 depth 0 u, below (depth + 1) 0 depth 1 u⟩

theorem nested_gates_measuring :
    let len := Value.function (.builtin .len)
    let args := Schema.tuple .fresh [nonemptyText]
    let both := withBoth args (.type .int) len Label.firstFree
    let u := { Session.start with active := some strictSettings }
    ∃ t outer t', len.attribute? nameAttribute = some (.text "len") ∧
      (make (some (.schema args)) (some (.type .int)) len (.mode .both)).exec Session.start =
        (.ok both, t) ∧
      (nested (.schema args) (.type .int) len).exec Session.start = (.ok outer, t') ∧
      (callWithin 3 outer [.text ""] []).exec u = (callWithin 2 both [.text ""] []).exec u ∧
      ((callWithin 2 both [.text ""] []).exec u).1 =
        .error (.invalid ⟨[⟨[.index 0], .refused "Invalid input", .text ""⟩], some .args,
          some "len"⟩) := by
  intro len args both u
  have made : (make (some (.schema args)) (some (.type .int)) len (.mode .both)).exec
      Session.start = (.ok both, _) :=
    (make_eq_ok (Value.ne_null_of_callable rfl)).mpr ⟨_, _, rfl, rfl, rfl, rfl, rfl⟩
  have refused : ((callWithin 2 both [.text ""] []).exec u).1 = .error (.invalid _) := rfl
  obtain ⟨outer, t', nest, same⟩ := nested_gates rfl made Session.start
  refine ⟨_, outer, t', rfl, made, nest, (same 1 [.text ""] [] u).1 fun deep => ?_, rfl⟩
  cases refused.symm.trans deep

end Contract

end CallContract
