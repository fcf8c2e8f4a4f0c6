import CallContract.Text.Blank

/-!
# Digits of all scripts

Every script that writes numbers in the decimal way has ten digits, which follow one another. A
number may be written with the digits of any of them, and with any blank around it:
`plainDigits` puts the ASCII digits and the space in their place. The classes are those of
Unicode 14.
-/

namespace CallContract

/-- The digits zero of all scripts. -/
def digitZeros : List Nat := [
    48, 1632, 1776, 1984, 2406, 2534, 2662, 2790, 2918, 3046, 3174, 3302, 3430, 3558, 3664, 3792,
    3872, 4160, 4240, 6112, 6160, 6470, 6608, 6784, 6800, 6992, 7088, 7232, 7248, 42528, 43216,
    43264, 43472, 43504, 43600, 44016, 65296, 66720, 68912, 69734, 69872, 69942, 70096, 70384,
    70736, 70864, 71248, 71360, 71472, 71904, 72016, 72784, 73040, 73120, 92768, 92864, 93008,
    120782, 120792, 120802, 120812, 120822, 123200, 123632, 125264, 130032
  ]

/-- The value of a decimal digit of any script. -/
def digitValue? (c : Char) : Option Nat :=
  (digitZeros.find? fun z => z ≤ c.toNat && c.toNat < z + 10).map (c.toNat - ·)

/-- The ASCII digit of a value below ten. -/
def asciiDigit (n : Nat) : Char := Char.ofNat ('0'.toNat + n)

/-- A character with the ASCII digit or the space in its place; what is none of these and lies
outside ASCII becomes a question mark, which stands in no number. -/
def plainChar (c : Char) : Char :=
  if c.toNat < 127 then c
  else if isBlank c then ' '
  else match digitValue? c with
    | some n => asciiDigit n
    | none => '?'

/-- A text with the ASCII digits and the space in place of others. -/
def plainDigits (cs : List Char) : List Char :=
  if cs.all fun c => c.toNat < 128 then cs else cs.map plainChar

example : plainDigits ['١', '٢', '\u00A0'] = ['1', '2', ' '] := by decide

end CallContract
