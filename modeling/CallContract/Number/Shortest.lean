import CallContract.Number.Double

/-!
# The shortest decimal text of a double

Among the decimal numbers that round to a given double, the text shows one with the fewest
digits, and of those the nearest (`shortest`). If a point of a decimal grid rounds to the
double, so does one of the two grid points next to it, so only these two are tested for each
number of digits. `DecimalStyle` holds what is a matter of taste: how far numbers are written
without an exponent and how the exponent is written.
-/

namespace CallContract

namespace Double

/-- A decimal number `digits · 10 ^ exponent`. -/
structure Decimal where
  digits : Nat
  exponent : Int
  deriving DecidableEq, Repr

/-- `10 ^ k ≤ n / d`. -/
def reachesPower (n d : Nat) (k : Int) : Bool :=
  if 0 ≤ k then d * tenTo k.toNat ≤ n else d ≤ n * tenTo (-k).toNat

/-- The place of the first decimal digit of `n / d`: the largest `k` with `10 ^ k ≤ n / d`,
found from the binary length, which is off by at most one. -/
def leadingPlace (n d : Nat) : Int :=
  let guess : Int := ((n.log2 : Int) - d.log2 - 1) * 30103 / 100000
  if reachesPower n d (guess + 2) then guess + 2
  else if reachesPower n d (guess + 1) then guess + 1
  else if reachesPower n d guess then guess
  else guess - 1

/-- Drop zeros from the end of the digits. -/
def Decimal.strip : Nat → Decimal → Decimal
  | 0, x => x
  | fuel + 1, x =>
    if x.digits ≠ 0 ∧ x.digits % 10 = 0 then
      Decimal.strip fuel ⟨x.digits / 10, x.exponent + 1⟩
    else x

/-- The grid point with spacing `10 ^ place` that rounds to `digits · 2 ^ exponent` and is
nearest to it, if there is one. The numbers that round to it lie between its half-way points to
the doubles beside it; these ends count when `digits` is even. All is measured in quarters of
the last binary digit. -/
def onGrid? (digits : Nat) (exponent place : Int) : Option Nat :=
  let value := 4 * digits
  let low := if digits = twoTo 52 ∧ leastExponent < exponent then value - 1 else value - 2
  let high := value + 2
  let (a, b) := unscale 1 1 (2 - exponent)
  let (n, d) := if 0 ≤ place then (a, b * tenTo place.toNat) else (a * tenTo (-place).toNat, b)
  let inside (c : Nat) : Bool :=
    if digits % 2 = 0 then low * n ≤ c * d && c * d ≤ high * n
    else low * n < c * d && c * d < high * n
  let below := value * n / d
  let above := below + 1
  match inside below, inside above with
  | false, false => none
  | true, false => some below
  | false, true => some above
  | true, true =>
    let down := value * n - below * d
    let up := above * d - value * n
    if down < up then some below
    else if up < down then some above
    else if below % 2 = 0 then some below else some above

/-- The decimal number with the fewest digits that rounds to `digits · 2 ^ exponent`. -/
def shortest (digits : Nat) (exponent : Int) : Decimal :=
  let (n, d) := unscale digits 1 (-exponent)
  let lead := leadingPlace n d
  let search := (List.range 17).findSome? fun (k : Nat) =>
    let place := lead - (k : Int)
    (onGrid? digits exponent place).map fun c => Decimal.mk c place
  match search with
  | some x => x.strip 20
  | none => ⟨digits, exponent⟩

/-- How a decimal number is written. -/
structure DecimalStyle where
  /-- The least place of a first digit that is written without an exponent. -/
  leastPlace : Int
  /-- The first place of a first digit that needs an exponent again. -/
  placeLimit : Int
  /-- How many digits an exponent has at least. -/
  exponentWidth : Nat

/-- Numbers from 0.0001 up to 10¹⁶ are written without an exponent, and an exponent has at
least two digits. -/
def plainStyle : DecimalStyle := ⟨-4, 16, 2⟩

/-- The decimal digits of a number. -/
def digitsOf (n : Nat) : List Char := Nat.toDigits 10 n

/-- The text of a decimal number, always with a point or an exponent. -/
def Decimal.text (style : DecimalStyle) (x : Decimal) : String :=
  let ds := digitsOf x.digits
  let place : Int := x.exponent + ds.length - 1
  if style.leastPlace ≤ place ∧ place < style.placeLimit then
    if place < 0 then
      String.ofList ("0.".toList ++ List.replicate ((-place).toNat - 1) '0' ++ ds)
    else
      let size := place.toNat + 1
      let padded := ds ++ List.replicate (size - ds.length) '0'
      let fraction := padded.drop size
      String.ofList (padded.take size ++ '.' :: (if fraction.isEmpty then ['0'] else fraction))
  else
    let mantissa := match ds with
      | [] => []
      | [c] => [c]
      | c :: rest => c :: '.' :: rest
    let width := digitsOf place.natAbs
    let exponent := List.replicate (style.exponentWidth - width.length) '0' ++ width
    String.ofList (mantissa ++ ['e', if place < 0 then '-' else '+'] ++ exponent)

/-- The text of a double: the fewest digits that read back. -/
def text : Double → String
  | .nan => "nan"
  | .infinite s => if s then "-inf" else "inf"
  | .finite s m e =>
    let body := if m = 0 then "0.0" else (shortest m e).text plainStyle
    if s then "-" ++ body else body

end Double

end CallContract
