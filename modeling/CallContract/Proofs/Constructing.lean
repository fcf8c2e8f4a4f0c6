import CallContract.Contract.Family
import CallContract.Proofs.Chaining
import CallContract.Proofs.Fixed

/-!
# What can go wrong in building

Schemas, contracts, functions and families are built by the operations of `Construction`. Parts that
do not fit are refused by a definition fault. `Construction.Escapes` lists all other faults that can
come instead, with the parts for which they come:

* a bound of an array schema that is no number;
* a bound, a mode or a name that a message is to show and that cannot be written;
* active settings that cannot be had, for a function that is made at once and given no mode.

So an operation gives its object or a definition fault exactly if none of these comes
(`Construction.outcome`).
-/

namespace CallContract

/-- Steps on the items of a list end with the fault of the first one that has any. -/
theorem mapM_eq_error_iff {α β ε : Type} {f : α → Except ε β} {xs : List α} {e : ε} :
    xs.mapM f = .error e ↔ ∃ before x after, xs = before ++ x :: after ∧
      (∀ y ∈ before, ∃ b, f y = .ok b) ∧ f x = .error e := by
  induction xs with
  | nil =>
    refine ⟨nofun, ?_⟩
    rintro ⟨before, x, after, h, -⟩
    cases before <;> cases h
  | cons y ys ih =>
    rw [List.mapM_cons, bind_eq_error]
    constructor
    · rintro (first | ⟨b, first, rest⟩)
      · exact ⟨[], y, ys, rfl, nofun, first⟩
      · rcases bind_eq_error.mp rest with rest | ⟨_, _, ⟨⟩⟩
        obtain ⟨before, x, after, rfl, fine, last⟩ := ih.mp rest
        exact ⟨y :: before, x, after, rfl, List.forall_mem_cons.mpr ⟨⟨b, first⟩, fine⟩, last⟩
    · rintro ⟨before, x, after, split, fine, last⟩
      cases before with
      | nil =>
        cases split
        exact .inl last
      | cons z before =>
        cases split
        obtain ⟨⟨b, first⟩, fine⟩ := List.forall_mem_cons.mp fine
        refine .inr ⟨b, first, bind_eq_error.mpr (.inl (ih.mpr ?_))⟩
        exact ⟨before, x, after, rfl, fine, last⟩

/-- Steps on the items of a list give results exactly if each of them does. -/
theorem mapM_isOk_iff {α β ε : Type} {f : α → Except ε β} {xs : List α} :
    (∃ ys, xs.mapM f = .ok ys) ↔ ∀ x ∈ xs, ∃ y, f x = .ok y := by
  induction xs with
  | nil => exact ⟨fun _ => nofun, fun _ => ⟨[], rfl⟩⟩
  | cons x xs ih =>
    rw [List.forall_mem_cons, ← ih]
    constructor
    · rintro ⟨_, all⟩
      rw [List.mapM_cons] at all
      obtain ⟨y, first, all⟩ := bind_eq_ok.mp all
      obtain ⟨ys, rest, -⟩ := bind_eq_ok.mp all
      exact ⟨⟨y, first⟩, ys, rest⟩
    · rintro ⟨⟨y, first⟩, ys, rest⟩
      exact ⟨y :: ys, by rw [List.mapM_cons, first, rest]; rfl⟩

/-- Whether a fault is not that of a definition. -/
def Fault.Other (e : Fault) : Prop := ∀ f, e ≠ .definition f

namespace Schema

/-! ### Bounds -/

/-- The bounds that are taken: none, and numbers that are not negative. -/
def Bounding (v : Value) : Prop :=
  v = .null ∨ ∃ n, v.numeral? = some n ∧ n.less (.whole 0) = false

/-- What a bound comes to: it is taken as the number that it is, or it is no number, or it is
negative and refused as such, if it can be written. -/
theorem bound_cases (name : BoundName) (v : Value) :
    (Bounding v ∧ bound name v = .ok v.numeral?) ∨
      (v ≠ .null ∧ v.numeral? = none ∧ bound name v = .error .wrongType) ∨
      ∃ n, v.numeral? = some n ∧ n.less (.whole 0) = true ∧
        bound name v =
          v.tell >>= fun shown => .error (.definition (.negativeBound name shown)) := by
  by_cases missing : v = .null
  · subst missing
    exact .inl ⟨.inl rfl, rfl⟩
  · have read : bound name v = v.numeral?.elim (.error .wrongType) fun n => do
        if n.less (.whole 0) then throw (.definition (.negativeBound name (← v.tell)))
        return some n := by
      unfold bound
      split
      · exact absurd rfl missing
      · cases v.numeral? <;> rfl
    rw [read]
    cases number : v.numeral? with
    | none => exact .inr (.inl ⟨missing, rfl, rfl⟩)
    | some n =>
      rw [Option.elim_some]
      cases negative : n.less (.whole 0) with
      | false => exact .inl ⟨.inr ⟨n, number, negative⟩, rfl⟩
      | true =>
        refine .inr (.inr ⟨n, rfl, negative, ?_⟩)
        cases v.tell <;> rfl

/-- The bounds of an array schema with their names, in the order in which they are looked at. -/
def bounds (length least most : Value) : List (BoundName × Value) :=
  [(.length, length), (.least, least), (.most, most)]

/-- Whether there is no exact length, and a least length above the greatest one. -/
def Crossed (length least most : Option Numeral) (a b : Numeral) : Prop :=
  length = none ∧ least = some a ∧ most = some b ∧ b.less a = true

/-- The faults, other than that of a definition, with which an array schema cannot be built. -/
inductive Unbounded (length least most : Value) : Fault → Prop
  /-- The first bound that is not taken is no number. -/
  | notNumber {name : BoundName} {v : Value} {before after : List (BoundName × Value)}
      (order : bounds length least most = before ++ (name, v) :: after)
      (taken : ∀ b ∈ before, Bounding b.2) (given : v ≠ .null) (number : v.numeral? = none) :
      Unbounded length least most .wrongType
  /-- The first bound that is not taken is negative, and cannot be written. -/
  | untold {name : BoundName} {v : Value} {n : Numeral} {before after : List (BoundName × Value)}
      (order : bounds length least most = before ++ (name, v) :: after)
      (taken : ∀ b ∈ before, Bounding b.2) (number : v.numeral? = some n)
      (negative : n.less (.whole 0) = true) (untold : v.tell = .error .unwritable) :
      Unbounded length least most .unwritable
  /-- All bounds are taken, and two that are crossed cannot both be written. -/
  | crossed {a b : Numeral} (taken : ∀ b ∈ bounds length least most, Bounding b.2)
      (crossed : Crossed length.numeral? least.numeral? most.numeral? a b)
      (untold : (Value.ofNumeral a).tell = .error .unwritable ∨
        (Value.ofNumeral b).tell = .error .unwritable) :
      Unbounded length least most .unwritable

theorem Unbounded.other {length least most : Value} {e : Fault}
    (h : Unbounded length least most e) : e.Other := by
  cases h <;> exact fun _ => Fault.noConfusion

/-- A bound that is refused for another reason than that it is negative. -/
theorem bound_eq_error {name : BoundName} {v : Value} {e : Fault} (other : e.Other) :
    bound name v = .error e ↔ (v ≠ .null ∧ v.numeral? = none ∧ e = .wrongType) ∨
      ∃ n, v.numeral? = some n ∧ n.less (.whole 0) = true ∧ v.tell = .error e := by
  rcases bound_cases name v with
    ⟨taken, ok⟩ | ⟨given, number, refused⟩ | ⟨n, number, negative, refused⟩
  · rw [ok]
    refine ⟨nofun, ?_⟩
    rintro (⟨given, number, -⟩ | ⟨n, number, negative, -⟩)
    · rcases taken with rfl | ⟨n, number', -⟩
      · exact absurd rfl given
      · cases number.symm.trans number'
    · rcases taken with rfl | ⟨n', number', positive⟩
      · cases number
      · cases number.symm.trans number'
        cases negative.symm.trans positive
  · rw [refused]
    constructor
    · rintro ⟨⟩
      exact .inl ⟨given, number, rfl⟩
    · rintro (⟨-, -, rfl⟩ | ⟨n, number', -⟩)
      · rfl
      · cases number.symm.trans number'
  · rw [refused, bind_eq_error]
    constructor
    · rintro (untold | ⟨_, _, ⟨⟩⟩)
      · exact .inr ⟨n, number, negative, untold⟩
      · exact absurd rfl (other _)
    · rintro (⟨-, number', -⟩ | ⟨_, _, _, untold⟩)
      · cases number.symm.trans number'
      · exact .inl untold

theorem bound_eq_ok_iff {name : BoundName} {v : Value} {n : Option Numeral} :
    bound name v = .ok n ↔ Bounding v ∧ v.numeral? = n := by
  rcases bound_cases name v with
    ⟨taken, ok⟩ | ⟨given, number, refused⟩ | ⟨n', number, negative, refused⟩
  · rw [ok, Except.ok.injEq]
    exact ⟨fun same => ⟨taken, same⟩, And.right⟩
  · rw [refused]
    refine ⟨nofun, ?_⟩
    rintro ⟨rfl | ⟨n, number', -⟩, -⟩
    · exact absurd rfl given
    · cases number.symm.trans number'
  · rw [refused]
    constructor
    · intro ok
      obtain ⟨_, _, ⟨⟩⟩ := bind_eq_ok.mp ok
    · rintro ⟨rfl | ⟨n'', number', positive⟩, -⟩
      · cases number
      · cases number.symm.trans number'
        cases negative.symm.trans positive

/-- The bounds of an array schema are read one after another, and then have to go together. -/
theorem array?_eq (element : Schema) (length least most : Value) :
    array? element length least most =
      (bounds length least most).mapM (fun b => bound b.1 b.2) >>= fun _ =>
        compatible length.numeral? least.numeral? most.numeral? >>= fun _ =>
          .ok (.array .fresh element length.numeral? least.numeral? most.numeral?) := by
  simp only [array?, bounds, List.mapM_cons, List.mapM_nil]
  cases first : bound .length length with
  | error e => rfl
  | ok n =>
    obtain ⟨-, rfl⟩ := bound_eq_ok_iff.mp first
    cases second : bound .least least with
    | error e => rfl
    | ok lo =>
      obtain ⟨-, rfl⟩ := bound_eq_ok_iff.mp second
      cases third : bound .most most with
      | error e => rfl
      | ok hi =>
        obtain ⟨-, rfl⟩ := bound_eq_ok_iff.mp third
        rfl

/-- Bounds that do not go together are refused for that, unless those that are crossed cannot be
written. -/
theorem compatible_eq_error {n lo hi : Option Numeral} {e : Fault} (other : e.Other) :
    compatible n lo hi = .error e ↔ e = .unwritable ∧ ∃ a b, Crossed n lo hi a b ∧
      ((Value.ofNumeral a).tell = .error .unwritable ∨
        (Value.ofNumeral b).tell = .error .unwritable) := by
  unfold compatible
  cases alone : n.isSome && (lo.isSome || hi.isSome) with
  | true =>
    constructor
    · rintro ⟨⟩
      exact absurd rfl (other _)
    · rintro ⟨-, a, b, ⟨rfl, -⟩, -⟩
      cases alone
  | false =>
    rw [if_neg Bool.false_ne_true]
    split
    · next a b =>
      obtain rfl : n = none := by
        cases n with
        | none => rfl
        | some _ => cases alone
      cases above : b.less a with
      | false =>
        refine ⟨nofun, ?_⟩
        rintro ⟨-, _, _, ⟨-, ⟨⟩, ⟨⟩, above'⟩, -⟩
        cases above.symm.trans above'
      | true =>
        rw [if_pos rfl]
        constructor
        · intro failed
          rcases bind_eq_error.mp failed with untold | ⟨shown, -, failed⟩
          · obtain rfl := Value.tell_eq_error untold
            exact ⟨rfl, a, b, ⟨rfl, rfl, rfl, above⟩, .inl untold⟩
          · rcases bind_eq_error.mp failed with untold | ⟨shown', -, ⟨⟩⟩
            · obtain rfl := Value.tell_eq_error untold
              exact ⟨rfl, a, b, ⟨rfl, rfl, rfl, above⟩, .inr untold⟩
            · exact absurd rfl (other _)
        · rintro ⟨rfl, _, _, ⟨-, ⟨⟩, ⟨⟩, -⟩, untold⟩
          cases told : (Value.ofNumeral a).tell with
          | error e =>
            obtain rfl := Value.tell_eq_error told
            rfl
          | ok shown =>
            rcases untold with untold | untold
            · cases told.symm.trans untold
            · rw [untold]
              rfl
    · next apart =>
      refine ⟨nofun, ?_⟩
      rintro ⟨-, a, b, ⟨-, rfl, rfl, -⟩, -⟩
      exact absurd rfl (apart a b rfl)

theorem array?_eq_error {element : Schema} {length least most : Value} {e : Fault}
    (other : e.Other) :
    array? element length least most = .error e ↔ Unbounded length least most e := by
  have taken : (∃ ns, (bounds length least most).mapM (fun b => bound b.1 b.2) = .ok ns) ↔
      ∀ b ∈ bounds length least most, Bounding b.2 := by
    simp only [mapM_isOk_iff, bound_eq_ok_iff]
    exact forall₂_congr fun b _ => ⟨fun ⟨_, h, _⟩ => h, fun h => ⟨_, h, rfl⟩⟩
  rw [array?_eq, bind_eq_error, mapM_eq_error_iff]
  constructor
  · rintro (⟨before, ⟨name, v⟩, after, order, fine, last⟩ | ⟨ns, read, last⟩)
    · have early : ∀ b ∈ before, Bounding b.2 := fun b member =>
        (bound_eq_ok_iff.mp (fine b member).choose_spec).1
      rcases (bound_eq_error other).mp last with
        ⟨given, number, rfl⟩ | ⟨n, number, negative, untold⟩
      · exact .notNumber order early given number
      · obtain rfl := Value.tell_eq_error untold
        exact .untold order early number negative untold
    · rcases bind_eq_error.mp last with failed | ⟨_, _, ⟨⟩⟩
      obtain ⟨rfl, a, b, crossed, untold⟩ := (compatible_eq_error other).mp failed
      exact .crossed (taken.mp ⟨ns, read⟩) crossed untold
  · have fine {before : List (BoundName × Value)} (early : ∀ b ∈ before, Bounding b.2) :
        ∀ b ∈ before, ∃ n, bound b.1 b.2 = .ok n :=
      fun b member => ⟨_, bound_eq_ok_iff.mpr ⟨early b member, rfl⟩⟩
    intro h
    cases h with
    | notNumber order early given number =>
      refine .inl ⟨_, _, _, order, fine early, (bound_eq_error other).mpr ?_⟩
      exact .inl ⟨given, number, rfl⟩
    | untold order early number negative untold =>
      refine .inl ⟨_, _, _, order, fine early, (bound_eq_error other).mpr ?_⟩
      exact .inr ⟨_, number, negative, untold⟩
    | crossed all crossed untold =>
      obtain ⟨ns, read⟩ := taken.mpr all
      refine .inr ⟨ns, read, bind_eq_error.mpr (.inl ?_)⟩
      exact (compatible_eq_error other).mpr ⟨rfl, _, _, crossed, untold⟩

end Schema

/-! ### Modes -/

/-- A value that names no mode, and cannot be written to say so. -/
def Value.Unmodal (v : Value) : Prop := (∀ m, v.asMode ≠ .ok m) ∧ v.show = .error .unwritable

theorem Value.asMode_eq_error_iff {v : Value} {e : Fault} (other : e.Other) :
    v.asMode = .error e ↔ e = .unwritable ∧ v.Unmodal := by
  constructor
  · intro failed
    rcases asMode_eq_error failed with ⟨d, rfl⟩ | ⟨rfl, unwritten⟩
    · exact absurd rfl (other d)
    · exact ⟨rfl, fun m => failed ▸ nofun, unwritten⟩
  · rintro ⟨rfl, unnamed, unwritten⟩
    cases read : v.asMode with
    | ok m => exact absurd read (unnamed m)
    | error e =>
      rcases asMode_eq_error read with ⟨d, rfl⟩ | ⟨rfl, -⟩
      · -- A value that cannot be written is not named in a fault either.
        unfold asMode at read
        split at read
        · cases read
        · split at read
          · cases read
          · rw [unwritten] at read
            cases read
      · rfl

namespace Contract

/-! ### Implementations -/

/-- The faults with which a function cannot be recorded that is made of an implementation and a
value in place of a mode. The name of the implementation is written first. -/
inductive Untold (implementation mode : Value) : Fault → Prop
  | name (untold : implementation.calledName.tell = .error .unwritable) :
      Untold implementation mode .unwritable
  | wordless {shown : String} (told : implementation.calledName.tell = .ok shown)
      (wordless : mode.attribute? "value" = none) : Untold implementation mode .noAttribute
  | word {shown : String} {word : Value} (told : implementation.calledName.tell = .ok shown)
      (worded : mode.attribute? "value" = some word) (untold : word.tell = .error .unwritable) :
      Untold implementation mode .unwritable

theorem Untold.other {f mode : Value} {e : Fault} (h : Untold f mode e) : e.Other := by
  cases h <;> exact fun _ => Fault.noConfusion

/-- What is written of a function when it is made, one after another. -/
theorem untold_iff {f mode : Value} {e : Fault} : Untold f mode e ↔
    (f.calledName.tell >>= fun _ => mode.ask "value" >>= Value.tell) = .error e := by
  rw [bind_eq_error]
  constructor
  · rintro (untold | ⟨told, wordless⟩ | ⟨told, worded, untold⟩)
    · exact .inl untold
    · exact .inr ⟨_, told, by rw [Value.ask, wordless]; rfl⟩
    · exact .inr ⟨_, told, by rw [Value.ask, worded]; exact untold⟩
  · rintro (untold | ⟨shown, told, failed⟩)
    · obtain rfl := Value.tell_eq_error untold
      exact .name untold
    · unfold Value.ask at failed
      cases worded : mode.attribute? "value" with
      | none =>
        rw [worded] at failed
        cases failed
        exact .wordless told worded
      | some word =>
        rw [worded] at failed
        obtain rfl := Value.tell_eq_error failed
        exact .word told worded failed

/-- Of a function with a mode, only the name may be impossible to write. -/
theorem untold_mode_iff {f : Value} {m : Mode} {e : Fault} :
    Untold f (.mode m) e ↔ f.calledName.tell = .error e := by
  rw [untold_iff, bind_eq_error]
  refine or_iff_left ?_
  rintro ⟨_, _, ⟨⟩⟩

/-- What is done with the mode that a contract has by now, when it gets an implementation. -/
def join (c : Contract) (f : Value) (mode : ModeChoice) : Run Value := do
  let function ← checked (.contract { c with label := .fresh, mode }) f
  let name ← Run.lift f.calledName.tell
  let word ← Run.require .noAttribute (mode.toValue.attribute? "value")
  Run.record source ("[CONTRACT] Implemented " ++ name ++
    " (mode=" ++ (← Run.lift word.tell) ++ ")")
  return function

theorem implement_eq (c : Contract) (f : Value) :
    c.implement f = if f.isCallable then c.resolvedMode >>= c.join f
      else throw (.definition (.implementationNotCallable f.kindName)) := by
  unfold implement
  cases f.isCallable <;> rfl

theorem join_of_unset {c : Contract} {f : Value} {mode : ModeChoice} (unset : mode.toValue = .null)
    (s : Session) : (c.join f mode).exec s = (.error (.definition .modeMissing), s) := by
  have asked : (Value.contract { c with label := .fresh, mode }).attribute? "mode" =
      some mode.toValue := rfl
  unfold join checked
  rw [asked, unset]
  rfl

theorem exec_join_fst {c : Contract} {f : Value} {mode : ModeChoice} (set : mode.toValue ≠ .null)
    (s : Session) : ((c.join f mode).exec s).1 =
      (f.calledName.tell >>= fun _ => mode.toValue.ask "value" >>= Value.tell) >>= fun _ =>
        .ok (.function
          (.checked s.next (.contract { c with label := .fresh, mode }) f f.face)) := by
  have asked : (Value.contract { c with label := .fresh, mode }).attribute? "mode" =
      some mode.toValue := rfl
  have joined : c.join f mode = (do
      let id ← Run.freshId
      let name ← Run.lift f.calledName.tell
      let word ← Run.require .noAttribute (mode.toValue.attribute? "value")
      Run.record source ("[CONTRACT] Implemented " ++ name ++
        " (mode=" ++ (← Run.lift word.tell) ++ ")")
      return .function (.checked id (.contract { c with label := .fresh, mode }) f f.face)) := by
    unfold join checked
    rw [asked]
    split
    · next none => cases none
    · next null => exact absurd (Option.some.inj null) set
    · rfl
  rw [joined, Value.ask]
  cases f.calledName.tell with
  | error e => rfl
  | ok name =>
    cases mode.toValue.attribute? "value" with
    | none => rfl
    | some word =>
      have told : ((.ok name : Except Fault String) >>= fun _ => .ok word >>= Value.tell) =
        word.tell := rfl
      rw [told]
      simp only [Run.lift_ok, Run.require_some, pure_bind]
      cases word.tell <;> rfl

theorem join_eq_error {c : Contract} {f : Value} {mode : ModeChoice} {s : Session} {e : Fault}
    (other : e.Other) :
    ((c.join f mode).exec s).1 = .error e ↔
      mode.toValue ≠ .null ∧ Untold f mode.toValue e := by
  by_cases unset : mode.toValue = .null
  · rw [join_of_unset unset]
    constructor
    · rintro ⟨⟩
      exact absurd rfl (other _)
    · rintro ⟨set, -⟩
      exact absurd unset set
  · rw [exec_join_fst unset, bind_eq_error, untold_iff, and_iff_right unset]
    refine or_iff_left ?_
    rintro ⟨_, _, ⟨⟩⟩

theorem implement_eq_error {c : Contract} {f : Value} {s : Session} {e : Fault}
    (other : e.Other) :
    ((c.implement f).exec s).1 = .error e ↔ f.isCallable = true ∧
      ((c.resolvedMode.exec s).1 = .error e ∨
        ∃ mode, (c.resolvedMode.exec s).1 = .ok mode ∧ mode.toValue ≠ .null ∧
          Untold f mode.toValue e) := by
  rw [implement_eq]
  cases callable : f.isCallable with
  | false =>
    constructor
    · rintro ⟨⟩
      exact absurd rfl (other _)
    · rintro ⟨⟨⟩, -⟩
  | true =>
    rw [if_pos rfl, and_iff_right rfl, Run.exec_bind_fst_eq_error]
    refine or_congr_right (exists_congr fun mode => ?_)
    simp only [join_eq_error other]
    rcases c.resolvedMode.exec s with ⟨r, t⟩
    constructor
    · rintro ⟨_, ⟨⟩, untold⟩
      exact ⟨rfl, untold⟩
    · rintro ⟨rfl, untold⟩
      exact ⟨t, rfl, untold⟩

/-! ### Parts that are given at once -/

/-- The schema for the arguments that are given, if any. -/
def givenArgs : Option Value → Except Fault Schema
  | none => .ok .emptyTuple
  | some v => argsSchema v

/-- The schema for the result that is given, if any. -/
def givenReturns (returns : Option Value) : Schema := (returns.map promote).getD .anything

/-- A contract with the mode that is given, if any. -/
def withGivenMode (c : Contract) : Value → Except Fault Contract
  | .null => .ok c
  | v => c.withMode v

/-- The contract of the parts that are given. They are looked at one after another. -/
def given (args returns : Option Value) (mode : Value) : Except Fault Contract := do
  let schema ← givenArgs args
  withGivenMode ⟨.fresh, schema, givenReturns returns, .unset⟩ mode

/-- What is made of a contract and what is given as its implementation, if anything is. -/
def finish (c : Contract) : Value → Run Value
  | .null => return .contract c
  | f => c.implement f

theorem make_eq_finish (args returns : Option Value) (f mode : Value) :
    make args returns f mode = Run.lift (given args returns mode) >>= fun c => c.finish f := by
  have ended (c : Contract) : (match f with
      | .null => pure (.contract c)
      | f => c.implement f : Run Value) = c.finish f := by cases f <;> rfl
  have chosen (c : Contract) : (match mode with
      | .null => pure c
      | m => Run.lift (c.withMode m) : Run Contract) = Run.lift (c.withGivenMode mode) := by
    cases mode <;> rfl
  -- What comes after the arguments is said once for each way to give a result.
  have rest (c : Contract) : (do
      match mode with
      | .null => match f with
        | .null => pure (.contract c)
        | f => c.implement f
      | m => do
        let c ← Run.lift (c.withMode m)
        match f with
        | .null => pure (.contract c)
        | f => c.implement f : Run Value) =
      Run.lift (c.withGivenMode mode) >>= fun c => c.finish f := by
    rw [← chosen]
    simp only [ended]
    split <;> rfl
  unfold make given
  cases args with
  | none => cases returns <;> exact rest _
  | some a =>
    dsimp only [givenArgs]
    cases argsSchema a with
    | error e => rfl
    | ok schema => cases returns <;> exact rest _

/-- Arguments that fit are schemas, sequences of schemas or nothing; all else is named in the
fault. -/
theorem givenArgs_cases (args : Option Value) :
    (∃ schema, givenArgs args = .ok schema) ∨ ∃ d, givenArgs args = .error (.definition d) := by
  cases args with
  | none => exact .inl ⟨_, rfl⟩
  | some v =>
    unfold givenArgs argsSchema
    dsimp only
    split <;> first | exact .inl ⟨_, rfl⟩ | exact .inr ⟨_, rfl⟩

theorem withGivenMode_of_set {mode : Value} (set : mode ≠ .null) (c : Contract) :
    c.withGivenMode mode =
      mode.asMode >>= fun m => .ok { c with label := .fresh, mode := .known m } := by
  rw [← withMode_eq]
  cases mode <;> first | exact absurd rfl set | rfl

/-- What is made of parts that are given: the arguments fit, and there is a mode or none. -/
theorem given_eq_ok {args returns : Option Value} {mode : Value} {c : Contract} :
    given args returns mode = .ok c ↔ ∃ schema, givenArgs args = .ok schema ∧
      ((mode = .null ∧ c = ⟨.fresh, schema, givenReturns returns, .unset⟩) ∨
        ∃ m, mode.asMode = .ok m ∧ c = ⟨.fresh, schema, givenReturns returns, .known m⟩) := by
  unfold given
  rw [bind_eq_ok]
  refine exists_congr fun schema => and_congr_right fun _ => ?_
  by_cases unset : mode = .null
  · subst unset
    constructor
    · rintro ⟨⟩
      exact .inl ⟨rfl, rfl⟩
    · rintro (⟨-, rfl⟩ | ⟨m, ⟨⟩, -⟩)
      rfl
  · rw [withGivenMode_of_set unset, bind_eq_ok, or_iff_right fun h => unset h.1]
    refine exists_congr fun m => and_congr_right fun _ => ?_
    rw [Except.ok.injEq, eq_comm]

theorem given_eq_error {args returns : Option Value} {mode : Value} {e : Fault} (other : e.Other) :
    given args returns mode = .error e ↔
      (∃ schema, givenArgs args = .ok schema) ∧ e = .unwritable ∧ mode.Unmodal := by
  unfold given
  rcases givenArgs_cases args with ⟨schema, fits⟩ | ⟨d, unfit⟩
  · rw [fits, ← Value.asMode_eq_error_iff other, and_iff_right ⟨schema, rfl⟩]
    by_cases unset : mode = .null
    · subst unset
      refine ⟨nofun, ?_⟩
      rintro ⟨⟩
      exact absurd rfl (other _)
    · show withGivenMode _ mode = _ ↔ _
      rw [withGivenMode_of_set unset, bind_eq_error]
      refine or_iff_left ?_
      rintro ⟨_, _, ⟨⟩⟩
  · rw [unfit]
    constructor
    · rintro ⟨⟩
      exact absurd rfl (other _)
    · rintro ⟨⟨_, ⟨⟩⟩, -⟩

theorem finish_of_given {f : Value} (given : f ≠ .null) (c : Contract) :
    c.finish f = c.implement f := by
  cases f <;> first | exact absurd rfl given | rfl

/-- Parts that are given at once make no function for the reasons for which there is no contract of
them, or for which the contract cannot get the implementation. -/
theorem make_eq_error {args returns : Option Value} {f mode : Value} {s : Session} {e : Fault}
    (other : e.Other) :
    ((make args returns f mode).exec s).1 = .error e ↔
      given args returns mode = .error e ∨
        ∃ c, given args returns mode = .ok c ∧ ((c.implement f).exec s).1 = .error e := by
  have implemented (c : Contract) : ((c.finish f).exec s).1 = .error e ↔
      ((c.implement f).exec s).1 = .error e := by
    by_cases missing : f = .null
    · subst missing
      rw [implement_eq]
      refine ⟨nofun, ?_⟩
      rintro ⟨⟩
      exact absurd rfl (other _)
    · rw [finish_of_given missing]
  rw [make_eq_finish, Run.exec_bind_fst_eq_error, Run.exec_lift]
  refine or_congr_right (exists_congr fun c => ?_)
  rw [← implemented]
  constructor
  · rintro ⟨_, made, failed⟩
    obtain ⟨fits, rfl⟩ := Prod.mk.inj made
    exact ⟨fits, failed⟩
  · rintro ⟨fits, failed⟩
    exact ⟨s, congrArg (·, s) fits, failed⟩

end Contract

/-! ### All operations -/

/-- An operation that builds something, with what it is given. -/
inductive Construction where
  | refine (base predicate message : Value)
  | tuple (items : List Value)
  | array (element length least most : Value)
  | function (args returns : Value)
  | make (args returns : Option Value) (implementation mode : Value)
  | args (c : Contract) (schemas : List Value)
  | returns (c : Contract) (schema : Value)
  | mode (c : Contract) (v : Value)
  | implement (c : Contract) (m : Mode) (implementation : Value)
  | family (factory : Value)

/-- What an operation does. -/
def Construction.run : Construction → Run Value
  | .refine base predicate message =>
    Value.schema <$> Run.lift (Schema.refine base predicate message)
  | .tuple items => return .schema (Schema.tupleOf items)
  | .array element length least most =>
    Value.schema <$> Run.lift (Schema.arrayOf element length least most)
  | .function given result => return .schema (Schema.functionOf given result)
  | .make given result f choice => Contract.make given result f choice
  | .args c schemas => return .contract (c.withArgs schemas)
  | .returns c schema => return .contract (c.withReturns schema)
  | .mode c v => Value.contract <$> Run.lift (c.withMode v)
  | .implement c m f => { c with mode := .known m }.implement f
  | .family factory => Family.ofFactory factory

/-- What an operation is there to make. -/
def Construction.Makes (s : Session) : Construction → Value → Prop
  | .refine base predicate message, v =>
    v = .schema (.refined .fresh (promote base) predicate message)
  | .tuple items, v => v = .schema (Schema.tupleOf items)
  | .array element length least most, v =>
    v = .schema (.array .fresh (promote element) length.numeral? least.numeral? most.numeral?)
  | .function given result, v => v = .schema (Schema.functionOf given result)
  | .make given result f choice, v => ∃ c, Contract.given given result choice = .ok c ∧
    (f = .null ∧ v = .contract c ∨ f ≠ .null ∧ ∃ id mode,
      (c.resolvedMode.exec s).1 = .ok mode ∧
      v = .function (.checked id (.contract { c with label := .fresh, mode }) f f.face))
  | .args c schemas, v => v = .contract (c.withArgs schemas)
  | .returns c schema, v => v = .contract (c.withReturns schema)
  | .mode c w, v => ∃ m, w.asMode = .ok m ∧
    v = .contract { c with label := .fresh, mode := .known m }
  | .implement c m f, v => ∃ id,
    v = .function (.checked id (.contract { c with label := .fresh, mode := .known m }) f f.face)
  | .family factory, v => ∃ id, v = .function (.generic id
    ((Family.factoryField, factory) :: factory.identity ++ [(wrappedName, factory)]))

open Contract in
/-- The faults, other than that of a definition, with which an operation can end. -/
inductive Construction.Escapes (s : Session) : Construction → Fault → Prop
  /-- A bound of an array schema is no number, or is refused and cannot be written. -/
  | bound {element length least most : Value} {e : Fault}
      (unbounded : Schema.Unbounded length least most e) :
      Escapes s (.array element length least most) e
  /-- A mode is none, and cannot be written. -/
  | mode {c : Contract} {v : Value} (unmodal : v.Unmodal) : Escapes s (.mode c v) .unwritable
  | givenMode {args returns : Option Value} {f v : Value} {schema : Schema}
      (fits : givenArgs args = .ok schema) (unmodal : v.Unmodal) :
      Escapes s (.make args returns f v) .unwritable
  /-- The name of an implementation cannot be written. -/
  | name {c : Contract} {m : Mode} {f : Value} (callable : f.isCallable = true)
      (untold : f.calledName.tell = .error .unwritable) :
      Escapes s (.implement c m f) .unwritable
  | givenName {args returns : Option Value} {f v : Value} {schema : Schema} {m : Mode}
      (fits : givenArgs args = .ok schema) (named : v.asMode = .ok m)
      (callable : f.isCallable = true) (untold : f.calledName.tell = .error .unwritable) :
      Escapes s (.make args returns f v) .unwritable
  /-- A function is made at once and given no mode, and the active settings cannot be had or are
  none. -/
  | settings {args returns : Option Value} {f : Value} {schema : Schema} {e : Fault}
      (fits : givenArgs args = .ok schema) (callable : f.isCallable = true)
      (failed : (Settings.activeMode.exec s).1 = .error e) (other : e.Other) :
      Escapes s (.make args returns f .null) e
  /-- The same, and what is in place of a mode there cannot be recorded. -/
  | settled {args returns : Option Value} {f : Value} {schema : Schema} {choice : ModeChoice}
      {e : Fault} (fits : givenArgs args = .ok schema) (callable : f.isCallable = true)
      (active : (Settings.activeMode.exec s).1 = .ok choice) (set : choice.toValue ≠ .null)
      (untold : Untold f choice.toValue e) : Escapes s (.make args returns f .null) e

namespace Construction

theorem Escapes.other {s : Session} {k : Construction} {e : Fault} (h : k.Escapes s e) :
    e.Other := by
  cases h with
  | bound unbounded => exact unbounded.other
  | mode | givenMode | name | givenName => exact fun _ => Fault.noConfusion
  | settings _ _ _ other => exact other
  | settled _ _ _ _ untold => exact untold.other

/-- Exactly these faults escape. -/
theorem run_eq_error {k : Construction} {s : Session} {e : Fault} (other : e.Other) :
    (k.run.exec s).1 = .error e ↔ k.Escapes s e := by
  cases k with
  | refine base predicate message =>
    refine iff_of_false ?_ nofun
    rw [run, Schema.refine]
    split
    · nofun
    · rintro ⟨⟩
      exact other _ rfl
  | tuple items | function args returns | args c schemas | returns c schema =>
    exact iff_of_false nofun nofun
  | array element length least most =>
    rw [run, Run.exec_map_fst, Run.exec_lift, map_eq_error, Schema.arrayOf,
      Schema.array?_eq_error other]
    constructor
    · exact .bound
    · rintro ⟨unbounded⟩
      exact unbounded
  | make args returns f mode =>
    rw [run, Contract.make_eq_error other, Contract.given_eq_error other]
    constructor
    · rintro (⟨⟨schema, fits⟩, rfl, unmodal⟩ | ⟨c, given, failed⟩)
      · exact .givenMode fits unmodal
      · obtain ⟨callable, failed⟩ := (Contract.implement_eq_error other).mp failed
        obtain ⟨schema, fits, ⟨rfl, rfl⟩ | ⟨m, named, rfl⟩⟩ := Contract.given_eq_ok.mp given
        · rcases failed with failed | ⟨choice, active, set, untold⟩
          · exact .settings fits callable failed other
          · exact .settled fits callable active set untold
        · rcases failed with ⟨⟨⟩⟩ | ⟨_, ⟨⟩, -, untold⟩
          have untold := Contract.untold_mode_iff.mp untold
          obtain rfl := Value.tell_eq_error untold
          exact .givenName fits named callable untold
    · intro escapes
      cases escapes with
      | givenMode fits unmodal => exact .inl ⟨⟨_, fits⟩, rfl, unmodal⟩
      | givenName fits named callable untold =>
        refine .inr ⟨_, Contract.given_eq_ok.mpr ⟨_, fits, .inr ⟨_, named, rfl⟩⟩, ?_⟩
        refine (Contract.implement_eq_error other).mpr ⟨callable, .inr ⟨_, rfl, nofun, ?_⟩⟩
        exact .name untold
      | settings fits callable failed =>
        refine .inr ⟨_, Contract.given_eq_ok.mpr ⟨_, fits, .inl ⟨rfl, rfl⟩⟩, ?_⟩
        exact (Contract.implement_eq_error other).mpr ⟨callable, .inl failed⟩
      | settled fits callable active set untold =>
        refine .inr ⟨_, Contract.given_eq_ok.mpr ⟨_, fits, .inl ⟨rfl, rfl⟩⟩, ?_⟩
        refine (Contract.implement_eq_error other).mpr ⟨callable, .inr ?_⟩
        exact ⟨_, active, set, untold⟩
  | mode c v =>
    rw [run, Run.exec_map_fst, Run.exec_lift, map_eq_error, Contract.withMode_eq, bind_eq_error,
      or_iff_left (by rintro ⟨_, _, ⟨⟩⟩), Value.asMode_eq_error_iff other]
    constructor
    · rintro ⟨rfl, unmodal⟩
      exact .mode unmodal
    · intro escapes
      cases escapes with
      | mode unmodal => exact ⟨rfl, unmodal⟩
  | implement c m f =>
    -- The mode is set, so that no settings are asked for and its word can be written.
    rw [run, Contract.implement_eq_error other]
    constructor
    · rintro ⟨callable, failed⟩
      rcases failed with ⟨⟨⟩⟩ | ⟨_, ⟨⟩, -, untold⟩
      have untold := Contract.untold_mode_iff.mp untold
      obtain rfl := Value.tell_eq_error untold
      exact .name callable untold
    · intro escapes
      cases escapes with
      | name callable untold => exact ⟨callable, .inr ⟨.known m, rfl, nofun, .name untold⟩⟩
  | family factory =>
    refine iff_of_false ?_ nofun
    rw [run, Family.ofFactory]
    split
    · rintro ⟨⟩
      exact other _ rfl
    · nofun

theorem makes_of_run {k : Construction} {s : Session} {v : Value}
    (made : (k.run.exec s).1 = .ok v) : k.Makes s v := by
  cases k with
  | refine base predicate message =>
    rw [run, Schema.refine] at made
    split at made <;> cases made
    rfl
  | tuple items | function args returns | args c schemas | returns c schema =>
    cases made
    rfl
  | array element length least most =>
    rw [run, Run.exec_map_fst, Run.exec_lift] at made
    obtain ⟨schema, built, rfl⟩ := map_eq_ok.mp made
    rw [Schema.arrayOf, Schema.array?_eq] at built
    obtain ⟨_, -, built⟩ := bind_eq_ok.mp built
    obtain ⟨_, -, ⟨⟩⟩ := bind_eq_ok.mp built
    rfl
  | make args returns f mode =>
    rw [run, Contract.make_eq_finish, Run.exec_bind, Run.exec_lift] at made
    cases given : Contract.given args returns mode with
    | error e =>
      rw [given] at made
      cases made
    | ok c =>
      rw [given] at made
      replace made : ((c.finish f).exec s).1 = .ok v := made
      refine ⟨c, given, ?_⟩
      by_cases missing : f = .null
      · subst missing
        cases made
        exact .inl ⟨rfl, rfl⟩
      · rw [Contract.finish_of_given missing] at made
        obtain ⟨id, choice, settled, rfl⟩ := Contract.implement_eq_ok (Prod.ext made rfl)
        exact .inr ⟨missing, id, choice, settled, rfl⟩
  | mode c v =>
    rw [run, Run.exec_map_fst, Run.exec_lift, Contract.withMode_eq] at made
    obtain ⟨_, read, rfl⟩ := map_eq_ok.mp made
    obtain ⟨m, named, ⟨⟩⟩ := bind_eq_ok.mp read
    exact ⟨m, named, rfl⟩
  | implement c m f =>
    obtain ⟨id, mode, known, rfl⟩ := Contract.implement_eq_ok (Prod.ext made rfl)
    cases known
    exact ⟨id, rfl⟩
  | family factory =>
    rw [run, Family.ofFactory] at made
    split at made <;> cases made
    exact ⟨s.next, rfl⟩

/-- A least length above the greatest one cannot be refused if it has too many digits. -/
theorem escapes_of_long {element : Value} {i j : Int} {s : Session} (least : 0 ≤ j)
    (crossed : j < i) (long : Piece.wholeLimit ≤ i.natAbs) :
    Escapes s (.array element .null (.int i) (.int j)) .unwritable := by
  have bounding {n : Int} (least : 0 ≤ n) : Schema.Bounding (.int n) := by
    refine .inr ⟨.whole n, rfl, ?_⟩
    rw [Numeral.whole_less_whole, decide_eq_false (Int.not_lt.mpr least)]
  have taken : ∀ b ∈ Schema.bounds .null (.int i) (.int j), Schema.Bounding b.2 := by
    refine List.forall_mem_cons.mpr ⟨.inl rfl, List.forall_mem_cons.mpr ⟨?_, ?_⟩⟩
    · exact bounding (Int.le_trans least (Int.le_of_lt crossed))
    · exact List.forall_mem_singleton.mpr (bounding least)
  have above : Schema.Crossed none (some (.whole i)) (some (.whole j)) (.whole i) (.whole j) :=
    ⟨rfl, rfl, rfl, by rw [Numeral.whole_less_whole, decide_eq_true crossed]⟩
  exact .bound (.crossed taken above (.inl (Value.tell_long long)))

/-- **Building gives its object or a definition fault, up to the listed faults.** In every session,
an operation makes what it is there to make or ends with the fault of a definition, exactly if none
of the faults of `Construction.Escapes` escapes; and these are exactly the other faults that it can
end with. -/
theorem outcome (k : Construction) (s : Session) :
    ((∀ e, ¬ k.Escapes s e) ↔
      (∃ v, (k.run.exec s).1 = .ok v ∧ k.Makes s v) ∨
        ∃ d, (k.run.exec s).1 = .error (.definition d)) ∧
    ∀ e, k.Escapes s e ↔ (k.run.exec s).1 = .error e ∧ ∀ d, e ≠ .definition d := by
  have escaping (e : Fault) :
      k.Escapes s e ↔ (k.run.exec s).1 = .error e ∧ ∀ d, e ≠ .definition d :=
    ⟨fun escapes => ⟨(run_eq_error escapes.other).mpr escapes, escapes.other⟩,
      fun ⟨failed, other⟩ => (run_eq_error other).mp failed⟩
  refine ⟨⟨fun none => ?_, ?_⟩, escaping⟩
  · cases ended : (k.run.exec s).1 with
    | ok v => exact .inl ⟨v, rfl, makes_of_run ended⟩
    | error e =>
      by_cases other : ∀ d, e ≠ .definition d
      · exact absurd ((escaping e).mpr ⟨ended, other⟩) (none e)
      · obtain ⟨d, rfl⟩ := not_forall_not.mp other
        exact .inr ⟨d, rfl⟩
  · rintro (⟨v, made, -⟩ | ⟨d, failed⟩) e escapes
    · cases made.symm.trans ((escaping e).mp escapes).1
    · obtain ⟨ended, other⟩ := (escaping e).mp escapes
      exact other d (Except.error.inj (ended.symm.trans failed))

/-- A text in place of a bound is neither taken nor refused as a part that does not fit. The same
holds for a least length above the greatest one, if it has too many digits to be written. -/
theorem outcome_strayBound :
    let stray := Construction.array (.type .int) (.text "x") .null .null
    let long := Construction.array (.type .int) .null (.int Piece.wholeLimit) (.int 0)
    (stray.run.exec Session.start).1 = .error .wrongType ∧
      (long.run.exec Session.start).1 = .error .unwritable ∧
      ∀ k ∈ [stray, long], ¬ ((∃ v, (k.run.exec Session.start).1 = .ok v) ∨
        ∃ d, (k.run.exec Session.start).1 = .error (.definition d)) := by
  intro stray long
  have compared : (stray.run.exec Session.start).1 = .error .wrongType := rfl
  have unwritten : (long.run.exec Session.start).1 = .error .unwritable := by
    have tens (n : Nat) : 0 < tenTo n := Nat.pow_pos (by decide)
    refine (run_eq_error fun _ => Fault.noConfusion).mpr ?_
    exact escapes_of_long (Int.le_refl 0) (Int.natCast_pos.mpr (tens _))
      (Int.natAbs_natCast _).ge
  refine ⟨compared, unwritten, fun k member => ?_⟩
  obtain ⟨e, failed, other⟩ : ∃ e, (k.run.exec Session.start).1 = .error e ∧ e.Other := by
    rcases List.mem_pair.mp member with rfl | rfl
    · exact ⟨_, compared, fun _ => Fault.noConfusion⟩
    · exact ⟨_, unwritten, fun _ => Fault.noConfusion⟩
  rintro (⟨v, made⟩ | ⟨d, refused⟩)
  · cases failed.symm.trans made
  · exact other d (Except.error.inj (failed.symm.trans refused))

end Construction

end CallContract
