import CallContract.Contract.Assembly
import CallContract.Proofs.Nesting

/-!
# Contracts built in steps

A step of a chain replaces one part of a contract and leaves the others alone. So each part is in
the end what the last step for it has made of it, whatever steps stand between them and however
often it was replaced before (`foldlM_amend`). A chain whose last steps are given the same parts as
the direct way then does the same as that, down to the session (`make_eq_chained`): both end with
one fault, or both give functions that only their identity tells apart (`make_chained`).

A mode that is none is named by its fault. One that cannot be written, or a name that cannot, ends
both ways with the fault of the writing.
-/

namespace CallContract

/-- A step of a chain, with what is given to it. -/
inductive Amendment where
  | args (schemas : List Value)
  | returns (schema : Value)
  | mode (v : Value)

namespace Amendment

/-- The schemas for the arguments that a step is given. -/
def args? : Amendment → Option (List Value)
  | .args schemas => some schemas
  | _ => none

/-- The schema for the result that a step is given. -/
def returns? : Amendment → Option Value
  | .returns schema => some schema
  | _ => none

/-- The mode that a step is given. -/
def mode? : Amendment → Option Value
  | .mode v => some v
  | _ => none

end Amendment

/-- The contract after a step. -/
def Contract.amend (c : Contract) : Amendment → Except Fault Contract
  | .args schemas => .ok (c.withArgs schemas)
  | .returns schema => .ok (c.withReturns schema)
  | .mode v => c.withMode v

/-- What is given to a step in a term, unless it is the one that ends the chain. -/
def BuildStep.amendment? (scope : Scope) : BuildStep → Option (Run Amendment)
  | .args terms => some (.args <$> buildSchemas scope terms)
  | .returns term => some (.returns <$> term.build scope)
  | .mode term => some (.mode <$> term.build scope)
  | .implement _ => none

/-- A step in a term builds what is given to it and amends the contract by that. -/
theorem BuildStep.take_amendment {scope : Scope} {step : BuildStep} {given : Run Amendment}
    (amends : step.amendment? scope = some given) (c : Contract) :
    step.take scope (.contract c) =
      given >>= fun a => Value.contract <$> Run.lift (c.amend a) := by
  cases step with
  | implement f => cases amends
  | args terms | returns term | mode term =>
    cases amends
    rw [bind_map_left]
    rfl

namespace Value

/-! ### What cannot be written -/

/-- A fault of a mode names what was given, unless that cannot be written. -/
theorem asMode_eq_error {v : Value} {e : Fault} (failed : v.asMode = .error e) :
    (∃ d, e = .definition d) ∨ e = .unwritable ∧ v.show = .error .unwritable := by
  unfold asMode at failed
  split at failed
  · cases failed
  · split at failed
    · cases failed
    · unfold Value.show at failed ⊢
      cases shown : v.shown? with
      | none =>
        rw [shown] at failed
        cases failed
        exact .inr ⟨rfl, rfl⟩
      | some text =>
        rw [shown] at failed
        cases failed
        exact .inl ⟨_, rfl⟩

/-- A whole number with too many digits has no text. -/
theorem shown?_long {i : Int} (long : Piece.wholeLimit ≤ i.natAbs) : (int i).shown? = none := by
  have piece : Piece.ofInt i = .unwritable := if_neg (Nat.not_lt.mpr long)
  rw [shown?, pieces, piece]
  rfl

theorem tell_long {i : Int} (long : Piece.wholeLimit ≤ i.natAbs) :
    (int i).tell = .error .unwritable := by
  have printed : (int i).print? = none := shown?_long long
  rw [tell, printed]

/-- Such a number is no mode, and cannot be written to say so. -/
theorem asMode_long {i : Int} (long : Piece.wholeLimit ≤ i.natAbs) :
    (int i).asMode = .error .unwritable := by
  show (int i).show >>= _ = _
  rw [Value.show, shown?_long long]
  rfl

end Value

namespace Contract

/-- A function built in steps: the contract that is made of no parts at all is amended step by step,
and then implemented. -/
def chained (steps : List Amendment) (f : Value) : Run Value := do
  let start ← make none none .null .null
  let c ← Run.require .noAttribute start.contract?
  let c ← Run.lift (steps.foldlM amend c)
  c.implement f

theorem chained_eq (steps : List Amendment) (f : Value) :
    chained steps f = Run.lift (steps.foldlM amend empty) >>= fun c => c.implement f := rfl

/-! ### What a chain makes of each part -/

theorem withMode_eq (c : Contract) (v : Value) :
    c.withMode v = v.asMode >>= fun m => .ok { c with label := .fresh, mode := .known m } := by
  unfold withMode
  cases v.asMode <;> rfl

/-- The steps for one part make of it what the last of them is given, and do nothing to the other
parts. A chain fails exactly if one of the modes is none, with the fault of the first of these. -/
theorem foldlM_amend (steps : List Amendment) {c : Contract} (fresh : c.label = .fresh) :
    steps.foldlM amend c =
      (steps.filterMap Amendment.mode?).mapM Value.asMode >>= fun modes => .ok {
        label := .fresh
        args := ((steps.filterMap Amendment.args?).getLast?.map Schema.tupleOf).getD c.args
        returns := ((steps.filterMap Amendment.returns?).getLast?.map promote).getD c.returns
        mode := (modes.getLast?.map ModeChoice.known).getD c.mode } := by
  -- Each step in front of others only changes what the chain starts from.
  induction steps generalizing c with
  | nil =>
    obtain ⟨_, _, _, _⟩ := c
    cases fresh
    rfl
  | cons step steps ih =>
    cases step with
    | args schemas =>
      rw [List.foldlM_cons]
      refine (ih rfl).trans ?_
      simp only [List.filterMap_cons, Amendment.args?, Amendment.returns?, Amendment.mode?,
        List.getLast?_cons, withArgs_returns, withArgs_mode]
      cases (steps.filterMap Amendment.args?).getLast? <;> rfl
    | returns schema =>
      rw [List.foldlM_cons]
      refine (ih rfl).trans ?_
      simp only [List.filterMap_cons, Amendment.args?, Amendment.returns?, Amendment.mode?,
        List.getLast?_cons, withReturns_args, withReturns_mode]
      cases (steps.filterMap Amendment.returns?).getLast? <;> rfl
    | mode v =>
      rw [List.foldlM_cons, amend, withMode_eq]
      simp only [List.filterMap_cons, Amendment.args?, Amendment.returns?, Amendment.mode?,
        List.mapM_cons]
      cases v.asMode with
      | error e => rfl
      | ok m =>
        refine (ih rfl).trans ?_
        cases (steps.filterMap Amendment.mode?).mapM Value.asMode with
        | error e => rfl
        | ok modes =>
          show Except.ok _ = Except.ok _
          rw [List.getLast?_cons]
          cases modes.getLast? <;> rfl

/-- Values that all are or name modes are read as modes. -/
theorem mapM_asMode_of_known {vs : List Value} (known : ∀ v ∈ vs, ∃ m, v.asMode = .ok m) :
    ∃ modes, vs.mapM Value.asMode = .ok modes := by
  induction vs with
  | nil => exact ⟨[], rfl⟩
  | cons v vs ih =>
    obtain ⟨m, first⟩ := known v List.mem_cons_self
    obtain ⟨modes, rest⟩ := ih fun w member => known w (List.mem_cons_of_mem _ member)
    exact ⟨m :: modes, by rw [List.mapM_cons, first, rest]; rfl⟩

/-- If all but the last of some values are or name modes, reading them comes down to the last. -/
theorem mapM_asMode_of_last {vs : List Value} {v : Value} (last : vs.getLast? = some v)
    (known : ∀ w ∈ vs.dropLast, ∃ m, w.asMode = .ok m) :
    ∃ before, vs.mapM Value.asMode = v.asMode >>= fun m => .ok (before ++ [m]) := by
  obtain ⟨before, early⟩ := mapM_asMode_of_known known
  refine ⟨before, ?_⟩
  rw [← List.dropLast_append_getLast? v last, List.mapM_append, early]
  simp only [List.mapM_cons, List.mapM_nil]
  cases v.asMode <;> rfl

/-! ### The two ways -/

section Ways

variable {steps : List Amendment} {schemas : List Value} {returns mode : Value}

/-- A chain comes to the parts that the last step for each part is given. -/
theorem foldlM_amend_of_last
    (lastArgs : (steps.filterMap Amendment.args?).getLast? = some schemas)
    (lastReturns : (steps.filterMap Amendment.returns?).getLast? = some returns)
    (lastMode : (steps.filterMap Amendment.mode?).getLast? = some mode)
    (known : ∀ v ∈ (steps.filterMap Amendment.mode?).dropLast, ∃ m, v.asMode = .ok m) :
    steps.foldlM amend empty =
      mode.asMode >>= fun m => .ok (ofParts (Schema.tupleOf schemas) returns m) := by
  obtain ⟨before, modes⟩ := mapM_asMode_of_last lastMode known
  rw [foldlM_amend steps rfl, modes, lastArgs, lastReturns]
  cases mode.asMode with
  | error e => rfl
  | ok m =>
    show Except.ok _ = Except.ok _
    rw [List.getLast?_concat]
    rfl

/-- What is made of schemas in a list or tuple, of a result, of a mode and of an implementation. -/
theorem make_eq_ofParts {given f : Value}
    (sequence : ∃ l, given = .list l schemas ∨ given = .tuple l schemas) (set : mode ≠ .null)
    (implemented : f ≠ .null) :
    make (some given) (some returns) f mode = Run.lift mode.asMode >>= fun m =>
      (ofParts (Schema.tupleOf schemas) returns m).implement f := by
  have schema : argsSchema given = .ok (Schema.tupleOf schemas) := by
    obtain ⟨l, rfl | rfl⟩ := sequence <;> rfl
  unfold make
  simp only [schema, Run.lift_ok, pure_bind, withMode_eq]
  cases mode.asMode <;> rfl

/-- A chain whose last steps are given the same parts does what is done with all parts at once: it
ends with the same fault or makes the same function, and leaves the same session. -/
theorem make_eq_chained {given f : Value}
    (lastArgs : (steps.filterMap Amendment.args?).getLast? = some schemas)
    (lastReturns : (steps.filterMap Amendment.returns?).getLast? = some returns)
    (lastMode : (steps.filterMap Amendment.mode?).getLast? = some mode)
    (known : ∀ v ∈ (steps.filterMap Amendment.mode?).dropLast, ∃ m, v.asMode = .ok m)
    (sequence : ∃ l, given = .list l schemas ∨ given = .tuple l schemas) (set : mode ≠ .null)
    (implemented : f ≠ .null) :
    make (some given) (some returns) f mode = chained steps f := by
  rw [make_eq_ofParts sequence set implemented, chained_eq,
    foldlM_amend_of_last lastArgs lastReturns lastMode known]
  cases mode.asMode <;> rfl

end Ways

/-! ### What comes of both -/

/-- Two values are functions that are checked by one contract and call one implementation, so that
only their identity can tell them apart: what is asked of them by name is the same, and so is what
comes of each call, with the session after it. -/
structure Alike (c : Contract) (f g g' : Value) : Prop where
  contract : g.attribute? "contract" = some (.contract c)
  implementation : g.attribute? "implementation" = some f
  name : g.attribute? "name" = some f.calledName
  attributes : ∀ n, g.attribute? n = g'.attribute? n
  calls : ∀ depth args kw, callWithin depth g args kw = callWithin depth g' args kw

theorem alike_checked (c : Contract) (f : Value) (id id' : Nat) :
    Alike c f (.function (.checked id (.contract c) f f.face))
      (.function (.checked id' (.contract c) f f.face)) where
  contract := rfl
  implementation := rfl
  name := rfl
  attributes _ := rfl
  calls
    | 0, _, _ => rfl
    | _ + 1, _, _ => rfl

/-- Implementing a contract with a mode fails in every session, or else gives functions that only
their identity tells apart. -/
theorem implement_cases (schema : Schema) (returns : Value) (m : Mode) (f : Value) :
    let c := ofParts schema returns m
    (∃ e, (∀ s, ((c.implement f).exec s).1 = .error e) ∧
      ((∃ d, e = .definition d) ∨ e = .unwritable ∧ f.calledName.tell = .error .unwritable)) ∨
    ∀ s s', ∃ g g', ((c.implement f).exec s).1 = .ok g ∧ ((c.implement f).exec s').1 = .ok g' ∧
      Alike c f g g' := by
  intro c
  cases callable : f.isCallable with
  | false =>
    refine .inl ⟨.definition (.implementationNotCallable f.kindName), fun s => ?_, .inl ⟨_, rfl⟩⟩
    simp [implement, callable]
  | true =>
    simp only [c, implement_ofParts schema returns m callable]
    cases told : f.calledName.tell with
    | error e =>
      obtain rfl := Value.tell_eq_error told
      exact .inl ⟨_, fun s => rfl, .inr ⟨rfl, rfl⟩⟩
    | ok shown => exact .inr fun s s' => ⟨_, _, rfl, rfl, alike_checked _ f s.next s'.next⟩

/-- **A contract can be built in steps or from parts given at once.** Take a chain of steps in any
order and number in which the last step for each part is given the schemas for the arguments, a
schema for the result and a mode, and in which the earlier modes are such; steps for the other parts
do not fail. Ending it with an implementation comes to the same as giving the schemas in a list or
tuple, the other two and the implementation at once. Either both ways fail, whatever the session,
and the fault is that of a definition unless the mode or the name of the implementation cannot be
written. Or both give functions with one contract, which only their identity tells apart. -/
theorem make_chained {steps : List Amendment} {schemas : List Value} {given returns mode f : Value}
    (lastArgs : (steps.filterMap Amendment.args?).getLast? = some schemas)
    (lastReturns : (steps.filterMap Amendment.returns?).getLast? = some returns)
    (lastMode : (steps.filterMap Amendment.mode?).getLast? = some mode)
    (known : ∀ v ∈ (steps.filterMap Amendment.mode?).dropLast, ∃ m, v.asMode = .ok m)
    (sequence : ∃ l, given = .list l schemas ∨ given = .tuple l schemas) (set : mode ≠ .null)
    (implemented : f ≠ .null) :
    let atOnce := make (some given) (some returns) f mode
    let inSteps := chained steps f
    (∃ e, (∀ s, (atOnce.exec s).1 = .error e ∧ (inSteps.exec s).1 = .error e) ∧
      ((∃ d, e = .definition d) ∨ e = .unwritable ∧
        (mode.show = .error .unwritable ∨ f.calledName.tell = .error .unwritable))) ∨
    ∃ m, mode.asMode = .ok m ∧ ∀ s s', ∃ g g', (atOnce.exec s).1 = .ok g ∧
      (inSteps.exec s').1 = .ok g' ∧ Alike (ofParts (Schema.tupleOf schemas) returns m) f g g' := by
  intro atOnce inSteps
  have same : inSteps = atOnce :=
    (make_eq_chained lastArgs lastReturns lastMode known sequence set implemented).symm
  have parts : atOnce = Run.lift mode.asMode >>= fun m =>
      (ofParts (Schema.tupleOf schemas) returns m).implement f :=
    make_eq_ofParts sequence set implemented
  rw [same, parts]
  cases asked : mode.asMode with
  | error e =>
    refine .inl ⟨e, fun s => ⟨rfl, rfl⟩, (Value.asMode_eq_error asked).imp_right ?_⟩
    exact fun unwritten => ⟨unwritten.1, .inl unwritten.2⟩
  | ok m =>
    rw [Run.lift_ok, pure_bind]
    refine (implement_cases (Schema.tupleOf schemas) returns m f).imp ?_ fun made => ⟨m, rfl, made⟩
    rintro ⟨e, failed, kind⟩
    exact ⟨e, fun s => ⟨failed s, failed s⟩, kind.imp_right fun untold => ⟨untold.1, .inr untold.2⟩⟩

/-- Steps that put the parts of a contract for functions that measure texts in place of others. -/
def replacing : List Amendment :=
  [.mode (.text "none"), .args [.type .int, .null], .returns (.type .text),
    .args [.schema nonemptyText], .mode (.text " Both "), .returns (.type .int)]

theorem make_chained_measuring :
    let len := Value.function (.builtin .len)
    let given := Value.tuple .fresh [.schema nonemptyText]
    let atOnce := make (some given) (some (.type .int)) len (.text " Both ")
    len ≠ .null ∧ Value.text " Both " ≠ .null ∧
    (replacing.filterMap Amendment.args?).getLast? = some [.schema nonemptyText] ∧
    (replacing.filterMap Amendment.returns?).getLast? = some (.type .int) ∧
    (replacing.filterMap Amendment.mode?).getLast? = some (.text " Both ") ∧
    (∀ v ∈ (replacing.filterMap Amendment.mode?).dropLast, ∃ m, v.asMode = .ok m) ∧
    ∃ g g', (atOnce.exec Session.start).1 = .ok g ∧
      ((chained replacing len).exec Session.start).1 = .ok g' ∧
      Alike (measuring .both) len g g' := by
  intro len given atOnce
  have implemented : len ≠ .null := Value.ne_null_of_callable rfl
  have set : Value.text " Both " ≠ .null := by rintro ⟨⟩
  have both : (Value.text " Both ").asMode = .ok .both := rfl
  have known : ∀ v ∈ (replacing.filterMap Amendment.mode?).dropLast, ∃ m, v.asMode = .ok m := by
    intro v member
    obtain rfl : v = .text "none" := List.mem_singleton.mp member
    exact ⟨.none, rfl⟩
  refine ⟨implemented, set, rfl, rfl, rfl, known, ?_⟩
  rcases make_chained rfl rfl rfl known ⟨.fresh, .inr rfl⟩ set implemented with
    ⟨e, failed, -⟩ | ⟨m, asked, made⟩
  · cases (failed Session.start).2
  · obtain rfl : Mode.both = m := Except.ok.inj (both.symm.trans asked)
    exact made Session.start Session.start

/-- Given the least whole number with too many digits as a mode, both ways end with a fault, but it
is not that of a definition. -/
theorem make_unwritableMode :
    let len := Value.function (.builtin .len)
    let mode := Value.int Piece.wholeLimit
    let atOnce := make (some (.list .fresh [.type .text])) (some (.type .int)) len mode
    let inSteps := chained [.args [.type .text], .returns (.type .int), .mode mode] len
    (atOnce.exec Session.start).1 = .error .unwritable ∧
      (inSteps.exec Session.start).1 = .error .unwritable ∧
      ¬ ∃ d, Fault.unwritable = .definition d := by
  intro len mode atOnce inSteps
  have unread : mode.asMode = .error .unwritable := Value.asMode_long (Int.natAbs_natCast _).ge
  have implemented : len ≠ .null := Value.ne_null_of_callable rfl
  have set : mode ≠ .null := show Value.int _ ≠ _ from nofun
  have failed : (atOnce.exec Session.start).1 = .error .unwritable := by
    rw [show atOnce = _ from make_eq_ofParts ⟨_, .inl rfl⟩ set implemented, unread]
    rfl
  have same : atOnce = inSteps :=
    make_eq_chained rfl rfl rfl (by rintro _ ⟨⟩) ⟨_, .inl rfl⟩ set implemented
  exact ⟨failed, same ▸ failed, by rintro ⟨d, ⟨⟩⟩⟩

end Contract

end CallContract
