/-!
# Double-precision numbers, exactly

A double is a fraction `± digits · 2 ^ exponent` with fewer than 54 binary digits, an
infinity, or the one value that is no number. Every finite double is kept in one normal form
(`Double.settle`), so that two doubles of one sign are equal as numbers exactly when they are
equal as terms. All arithmetic is done on whole numbers and rounded once, to nearest and on a
tie to the even neighbour (`roundHalfEven`).
-/

namespace CallContract

/-- A double-precision number. In `finite`, either `digits` has 53 binary digits or `exponent`
is the least one. -/
inductive Double where
  | nan
  | infinite (negative : Bool)
  | finite (negative : Bool) (digits : Nat) (exponent : Int)
  deriving DecidableEq, Repr, Inhabited

/-- The `n`-th power of two. -/
def twoTo (n : Nat) : Nat := Nat.pow 2 n

/-- The `n`-th power of ten. -/
def tenTo (n : Nat) : Nat := Nat.pow 10 n

/-- The quotient `n / d` rounded to the nearest whole number, a tie to the even one. -/
def roundHalfEven (n d : Nat) : Nat :=
  let q := n / d
  let r := n % d
  if 2 * r < d then q
  else if d < 2 * r then q + 1
  else if q % 2 = 0 then q else q + 1

namespace Double

/-- The exponent of the smallest doubles. -/
def leastExponent : Int := -1074

/-- The exponent of the largest finite doubles. -/
def greatestExponent : Int := 971

/-- Zero with a sign. -/
def zero (negative : Bool) : Double := .finite negative 0 leastExponent

/-- Numerator and denominator of `n / d · 2 ^ (-e)`. -/
def unscale (n d : Nat) (e : Int) : Nat × Nat :=
  if 0 ≤ e then (n, d * twoTo e.toNat) else (n * twoTo (-e).toNat, d)

/-- Put rounded digits into normal form: a carry into a 54th digit raises the exponent, and an
exponent out of range is an infinity. -/
def settle (negative : Bool) (digits : Nat) (exponent : Int) : Double :=
  let (m, e) := if digits = twoTo 53 then (twoTo 52, exponent + 1) else (digits, exponent)
  if greatestExponent < e then .infinite negative else .finite negative m e

/-- The exponent at which the quotient `n / d` has 53 digits before the point. -/
def exponentFor (n d : Nat) : Int :=
  let e : Int := (n.log2 : Int) - d.log2 - 53
  let (a, b) := unscale n d e
  if twoTo 53 * b ≤ a then e + 1 else e

/-- The double nearest to `± n / d`. -/
def ofRatio (negative : Bool) (n d : Nat) : Double :=
  if n = 0 then zero negative
  else
    let e := max (exponentFor n d) leastExponent
    let (a, b) := unscale n d e
    settle negative (roundHalfEven a b) e

/-- The double nearest to `m · 2 ^ e`; an exact zero gets the sign `zeroSign`. -/
def ofScaled (zeroSign : Bool) (m e : Int) : Double :=
  if m = 0 then zero zeroSign
  else if 0 ≤ e then ofRatio (m < 0) (m.natAbs * twoTo e.toNat) 1
  else ofRatio (m < 0) m.natAbs (twoTo (-e).toNat)

/-- The double nearest to a whole number. -/
def ofInt (i : Int) : Double := ofScaled false i 0

/-- A whole number as a double, if it is not beyond the largest one. -/
def ofInt? (i : Int) : Option Double :=
  match ofInt i with
  | .finite s m e => some (.finite s m e)
  | _ => none

/-- The double nearest to `± digits · 10 ^ exponent`. The power is not computed where the answer
is an infinity or zero anyway. -/
def ofDecimal (negative : Bool) (digits : Nat) (exponent : Int) : Double :=
  let size : Int := (Nat.toDigits 10 digits).length
  if digits = 0 then zero negative
  else if 400 < exponent + size then .infinite negative
  else if exponent + size < -400 then zero negative
  else if 0 ≤ exponent then ofRatio negative (digits * tenTo exponent.toNat) 1
  else ofRatio negative digits (tenTo (-exponent).toNat)

/-- The sign bit. -/
def isNegative : Double → Bool
  | .nan => false
  | .infinite s => s
  | .finite s _ _ => s

/-- Whether the number is one of the two zeros. -/
def isZero : Double → Bool
  | .finite _ m _ => m = 0
  | _ => false

/-- The number without its fraction (cut toward zero), if it is finite. -/
def truncate? : Double → Option Int
  | .finite s m e =>
    let n : Nat := if 0 ≤ e then m * twoTo e.toNat else m / twoTo (-e).toNat
    some (if s then -(n : Int) else n)
  | _ => none

/-- Whether a finite double has no fraction. -/
def isWhole : Double → Bool
  | .finite _ m e => 0 ≤ e || m % twoTo (-e).toNat = 0
  | _ => false

/-- Bring two scaled numbers to one exponent. -/
def align (a b : Int × Int) : Int × Int :=
  let e := min a.2 b.2
  (a.1 * twoTo (a.2 - e).toNat, b.1 * twoTo (b.2 - e).toNat)

/-- The order of two doubles as numbers; `nan` compares with nothing and the two zeros are
equal. -/
def compare? : Double → Double → Option Ordering
  | .nan, _ => none
  | _, .nan => none
  | .infinite s, .infinite t => some (compare t.toNat s.toNat)
  | .infinite s, .finite .. => some (if s then .lt else .gt)
  | .finite .., .infinite s => some (if s then .gt else .lt)
  | .finite s m e, .finite t n f =>
    let (a, b) := align (if s then -(m : Int) else m, e) (if t then -(n : Int) else n, f)
    some (compare a b)

/-- The order of a double and a whole number, exactly. -/
def compareInt? : Double → Int → Option Ordering
  | .nan, _ => none
  | .infinite s, _ => some (if s then .lt else .gt)
  | .finite s m e, i =>
    let (a, b) := align (if s then -(m : Int) else m, e) (i, 0)
    some (compare a b)

/-- The sum, rounded once. -/
def add : Double → Double → Double
  | .nan, _ => .nan
  | _, .nan => .nan
  | .infinite s, .infinite t => if s = t then .infinite s else .nan
  | .infinite s, _ => .infinite s
  | _, .infinite t => .infinite t
  | .finite s m e, .finite t n f =>
    let (a, b) := align (if s then -(m : Int) else m, e) (if t then -(n : Int) else n, f)
    ofScaled (s && t) (a + b) (min e f)

/-- The product, rounded once. -/
def mul : Double → Double → Double
  | .nan, _ => .nan
  | _, .nan => .nan
  | .infinite s, y => if y.isZero then .nan else .infinite (s != y.isNegative)
  | x, .infinite t => if x.isZero then .nan else .infinite (x.isNegative != t)
  | .finite s m e, .finite t n f =>
    let m' : Int := if s != t then -((m * n : Nat) : Int) else (m * n : Nat)
    ofScaled (s != t) m' (e + f)

/-- The distance from zero. -/
def abs : Double → Double
  | .nan => .nan
  | .infinite _ => .infinite false
  | .finite _ m e => .finite false m e

/-- The number with the other sign. -/
def neg : Double → Double
  | .nan => .nan
  | .infinite s => .infinite !s
  | .finite s m e => .finite (!s) m e

example : ofInt 1 = .finite false (twoTo 52) (-52) := by decide
example : ofInt (twoTo 53 + 1) = ofInt (twoTo 53) := by decide
example : ofDecimal false 5 (-1) = .finite false (twoTo 52) (-53) := by decide

end Double

end CallContract
