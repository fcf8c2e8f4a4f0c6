import CallContract.Proofs.History
import CallContract.Proofs.Settling

/-!
# Alternatives that are tried in order

Theorems about checks hold for whatever the validators of the engine answer, or say what they need
of them. The calls of the library itself know one kind of validator (`Value.alternatives?`), which
tries what is described one after another: what it answers is what one of the alternatives makes of
the value (`firstAccepted_eq_ok`). Texts or else whole numbers are an example (`textElseInt`). Its
validator reads values (`ask_textElseInt`) and gives back what it has read (`textElseInt_firm`).
-/

namespace CallContract

/-- What comes of alternatives is what one of them makes. -/
theorem firstAccepted_eq_ok {check : Rule → Run Verdict} {rs : List Rule} {w : Value}
    {s t : Session} (h : (firstAccepted check rs).exec s = (.ok w, t)) :
    ∃ r ∈ rs, ∃ u, (check r).exec u = (.ok (.ok w), t) := by
  induction rs generalizing s with
  | nil => cases h
  | cons r rs ih =>
    obtain ⟨verdict, u, checked, h⟩ := Run.exec_bind_eq_ok.mp h
    cases verdict with
    | ok w' =>
      obtain ⟨rfl, rfl⟩ := Run.exec_pure_eq_ok.mp h
      exact ⟨r, List.mem_cons_self, s, checked⟩
    | error is =>
      obtain ⟨r', mem, accepted⟩ := ih h
      exact ⟨r', List.mem_cons_of_mem r mem, accepted⟩

/-- The validator of alternatives tries them with one nested call less. -/
theorem ask_alternatives {type : Value} {rs : List Rule} (found : type.alternatives? = some rs)
    (depth : Nat) (b : Bool) (v : Value) : (callWithin (depth + 1)).ask (type.validator b) v =
      firstAccepted (fun r => r.apply (callWithin depth) b v) rs := by
  rw [Caller.ask, callWithin_succ, Value.validator, Value.callBy, Value.validateBy, found]

/-- A description of two basic types, one tried after the other. -/
def leftToRight (first second : String) : Value :=
  let described (name : String) : Value := .dict .fresh [(.text "type", .text name)]
  .dict .fresh [(.text "type", .text "union"),
    (.text "choices", .list .fresh [described first, described second]),
    (.text "mode", .text "left_to_right")]

/-- Texts, or else whole numbers. -/
def textElseInt : Value := leftToRight "str" "int"

theorem textElseInt_alternatives : textElseInt.alternatives? = some [.text, .int] := rfl

/-- What is made of a value where texts are tried first and whole numbers then. -/
def readTextElseInt (b : Bool) (v : Value) : Except Fault Value :=
  match Scalar.text b v with
  | .ok w => .ok w
  | .error _ => match Scalar.int b v with
    | .ok w => .ok w
    | .error _ => .error .notImplemented

theorem ask_textElseInt (depth : Nat) (b : Bool) (v : Value) :
    (callWithin (depth + 1)).ask (textElseInt.validator b) v = Run.lift (readTextElseInt b v) := by
  rw [ask_alternatives textElseInt_alternatives]
  unfold readTextElseInt
  cases text : Scalar.text b v <;> cases int : Scalar.int b v <;>
    simp only [firstAccepted, Rule.apply, text, int, Verdict.ofReading, pure_bind] <;> rfl

theorem readTextElseInt_again {b : Bool} {v w : Value} (h : readTextElseInt b v = .ok w) :
    readTextElseInt b w = .ok w := by
  unfold readTextElseInt at h
  split at h
  · next text =>
    cases h
    obtain ⟨c, rfl⟩ := text_eq_ok text
    rfl
  · split at h
    · next int =>
      cases h
      obtain ⟨i, rfl⟩ := int_eq_ok int
      rfl
    · cases h

section

variable {I : Session → Prop}

theorem textElseInt_steady (depth : Nat) (b : Bool) :
    (callWithin (depth + 1)).Steady I (textElseInt.validator b) :=
  .of_reading (ask_textElseInt depth b)

theorem textElseInt_firm (depth : Nat) (b : Bool) :
    (callWithin (depth + 1)).Firm I (textElseInt.validator b) := by
  intro v w s t _ answered s' _
  rw [ask_textElseInt, Run.exec_lift] at answered
  have again := readTextElseInt_again (Prod.mk.inj answered).1
  exact ⟨s', by rw [ask_textElseInt, Run.exec_lift, again]⟩

end

theorem textElseInt_tells (depth : Nat) (b : Bool) :
    (callWithin (depth + 1)).Tells (textElseInt.validator b) := by
  intro args kw s issues t h
  rcases args with _ | ⟨v, _ | ⟨v', rest⟩⟩
  · cases h
  · cases kw with
    | nil =>
      have asked : ((callWithin (depth + 1)).ask (textElseInt.validator b) v).exec s = _ := h
      rw [ask_textElseInt, Run.exec_lift] at asked
      have unfit := (Prod.mk.inj asked).1
      unfold readTextElseInt at unfit
      repeat' split at unfit
      all_goals cases unfit
    | cons => cases h
  · cases h

/-- A contract for one text that is not empty, and for a text or else a whole number made of it. -/
def choosing (m : Mode) : Contract :=
  { oneText with returns := .primitive .fresh textElseInt, mode := .known m }

end CallContract
