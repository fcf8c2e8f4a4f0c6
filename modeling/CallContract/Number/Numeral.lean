import CallContract.Number.Shortest

/-!
# Numerals

A numeral is a truth value, a whole number or a double. A truth value counts as 0 or 1. Numerals
of different sorts are compared by their exact values; a sum or product is whole when both parts
are whole, and otherwise a double.
-/

namespace CallContract

/-- A value that can be counted with. -/
inductive Numeral where
  | flag (b : Bool)
  | whole (i : Int)
  | real (d : Double)
  deriving DecidableEq, Repr, Inhabited

namespace Numeral

/-- The whole number that a truth value or a whole number stands for. -/
def whole? : Numeral → Option Int
  | flag b => some (if b then 1 else 0)
  | whole i => some i
  | real _ => none

/-- The double next to a numeral; `none` if a whole number is too large for one. -/
def double? : Numeral → Option Double
  | flag b => some (Double.ofInt (if b then 1 else 0))
  | whole i => Double.ofInt? i
  | real d => some d

/-- The order of two numerals; `none` if one of them is not a number. -/
def compare? (a b : Numeral) : Option Ordering :=
  match a, b with
  | real x, real y => x.compare? y
  | real x, b => x.compareInt? (b.whole?.getD 0)
  | a, real y => (y.compareInt? (a.whole?.getD 0)).map Ordering.swap
  | a, b => some (compare (a.whole?.getD 0) (b.whole?.getD 0))

/-- Equality as numbers. -/
def same (a b : Numeral) : Bool := a.compare? b == some .eq

/-- Whether `a` is less than `b`. -/
def less (a b : Numeral) : Bool := a.compare? b == some .lt

/-- Whether the numeral differs from zero. -/
def isNonzero : Numeral → Bool
  | flag b => b
  | whole i => i ≠ 0
  | real d => !d.isZero

/-- Combine two numerals by one operation on whole numbers and one on doubles; `none` if a whole
number would have to become a double and is too large. -/
def combine (onInt : Int → Int → Int) (onDouble : Double → Double → Double) (a b : Numeral) :
    Option Numeral :=
  match a.whole?, b.whole? with
  | some i, some j => some (whole (onInt i j))
  | _, _ => do
    let x ← a.double?
    let y ← b.double?
    return real (onDouble x y)

/-- The sum. -/
def add (a b : Numeral) : Option Numeral := combine (· + ·) Double.add a b

/-- The product. -/
def mul (a b : Numeral) : Option Numeral := combine (· * ·) Double.mul a b

/-- The text of a numeral. -/
def text : Numeral → String
  | flag b => if b then "True" else "False"
  | whole i => toString i
  | real d => d.text

@[simp] theorem whole_less_whole (i j : Int) : (whole i).less (whole j) = decide (i < j) := by
  simp only [less, compare?, whole?, Option.getD_some]
  rcases Int.lt_trichotomy i j with h | h | h
  · simp [compare, compareOfLessAndEq, h]
  · subst h; simp [compare, compareOfLessAndEq]
  · have h₁ : ¬ i < j := by omega
    have h₂ : i ≠ j := by omega
    simp [compare, compareOfLessAndEq, h₁, h₂]

end Numeral

end CallContract
