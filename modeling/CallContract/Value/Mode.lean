import CallContract.Fault
import CallContract.Value.Equality

/-!
# Modes among values

A mode can be given as a mode or by its name. Every way to set a mode goes through
`Value.asMode`, so all of them accept the same names.
-/

namespace CallContract

/-- The mode that a value is or names. -/
def Value.asMode (v : Value) : Except Fault Mode :=
  match v with
  | .mode m => .ok m
  | v =>
    match v.text?.bind Mode.ofText? with
    | some m => .ok m
    | none => v.show >>= fun shown => .error (.definition (.unknownMode shown))

/-- The boundary that a value is, or whose word it is. -/
def Value.asBoundary? (v : Value) : Option Boundary :=
  match v.text? with
  | some "args" => some .args
  | some "return" => some .result
  | _ => none

@[simp] theorem Value.asMode_mode (m : Mode) : (Value.mode m).asMode = .ok m := rfl

theorem Value.asMode_text (s : String) :
    (Value.text s).asMode =
      match Mode.ofText? s with
      | some m => .ok m
      | none => .error (.definition (.unknownMode (quoted s))) := by
  simp only [asMode, text?, Option.bind_some, show_text]
  rfl

/-- Whether a mode enforces a boundary, both given as values. The mode is looked at first. -/
def shouldEnforce (mode boundary : Value) : Except Fault Bool :=
  match mode.asMode, boundary.asBoundary? with
  | .error f, _ => .error f
  | .ok m, some b => .ok (m.enforces b)
  | .ok _, none =>
    if boundary.isHashable then .error (.noKey boundary.shown) else .error .wrongType

end CallContract
