import CallContract.Number.Double
import CallContract.Text.Blank

/-!
# Numbers in text

What readers of numbers share, and the reader for decimal fractions, which takes the characters of
the whole text and accepts it or gives nothing. Digits are the ten ASCII digits throughout.
-/

namespace CallContract

/-- The value of a digit; a letter counts from ten. -/
def digitOf (c : Char) : Nat :=
  if c.isDigit then c.toNat - '0'.toNat
  else if c.isLower then c.toNat - 'a'.toNat + 10
  else c.toNat - 'A'.toNat + 10

/-- The number that a row of digits stands for in base `b`, after `n`. -/
def natOfDigitsFrom (b n : Nat) (ds : List Char) : Nat :=
  ds.foldl (fun n c => b * n + digitOf c) n

/-- The number that a row of digits stands for in base `b`. -/
def natOfDigits (b : Nat) (ds : List Char) : Nat := natOfDigitsFrom b 0 ds

/-- Split off a sign; `true` stands for minus. -/
def splitSign : List Char → Bool × List Char
  | '-' :: cs => (true, cs)
  | '+' :: cs => (false, cs)
  | cs => (false, cs)

/-- A natural number with a sign. -/
def signed (negative : Bool) (n : Nat) : Int := if negative then -(n : Int) else n

/-- The text without underscores, if none stands at an end or beside another. -/
def dropUnderscores? (cs : List Char) : Option (List Char) :=
  let doubled := (cs.zip (cs.drop 1)).any fun (a, b) => a == '_' && b == '_'
  if cs.head? = some '_' ∨ cs.getLast? = some '_' ∨ doubled then none
  else some (cs.filter (· ≠ '_'))

namespace Double

/-- The exponent part of a decimal number, which may be missing. -/
def readExponent? : List Char → Option Int
  | [] => some 0
  | c :: cs =>
    if c = 'e' ∨ c = 'E' then
      let (negative, ds) := splitSign cs
      if ds.isEmpty || !ds.all Char.isDigit then none
      else some (signed negative (natOfDigits 10 ds))
    else none

/-- A decimal number without sign: digits with at most one point, which may stand at an end,
and an exponent, if any. -/
def readUnsigned? (negative : Bool) (cs : List Char) : Option Double :=
  let whole := cs.takeWhile Char.isDigit
  let rest := cs.dropWhile Char.isDigit
  let (fraction, rest) := match rest with
    | '.' :: r => (r.takeWhile Char.isDigit, r.dropWhile Char.isDigit)
    | r => ([], r)
  if whole.isEmpty && fraction.isEmpty then none
  else (readExponent? rest).map fun e =>
    ofDecimal negative (natOfDigits 10 (whole ++ fraction)) (e - fraction.length)

/-- A double: a sign, if any, and a decimal number or one of the words for infinity and for no
number, in any case. -/
def read? (cs : List Char) : Option Double :=
  let (negative, rest) := splitSign cs
  let word := String.ofList (rest.map Char.toLower)
  if word = "inf" ∨ word = "infinity" then some (.infinite negative)
  else if word = "nan" then some .nan
  else readUnsigned? negative rest

end Double

end CallContract
