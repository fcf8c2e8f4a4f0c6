import CallContract.Number.Reading
import CallContract.Text.Digit

/-!
# Number literals

A number literal is a text that is a number on its own: with blanks around it, a sign, and single
underscores between the digits. `Literal.whole` reads a whole number in a base from 2 to 36; base
zero stands for the base that the text itself tells by what stands before its digits. There is a
limit to the number of digits, except in bases that are powers of two, where each digit is a group
of binary ones. `Literal.fraction?` reads a double.
-/

namespace CallContract

namespace Literal

/-- Why a text is no whole number. -/
inductive Defect where
  | notWhole
  | tooLong (digits : Nat)
  deriving DecidableEq, Repr, Inhabited

/-- The most digits that a whole number may have in a text. -/
def digitLimit : Nat := 4300

/-- The advice that comes with a number of too many digits. -/
def limitAdvice : String := "use sys.set_int_max_str_digits() to increase the limit"

/-- What is said of a number of too many digits. -/
def limitText (found : String) : String :=
  "Exceeds the limit (" ++ toString digitLimit ++ " digits) for integer string conversion" ++
    found ++ "; " ++ limitAdvice

/-- What is said of a text, given as shown, that is no whole number in a base. Only the beginning of
a long text is shown. -/
def Defect.message (base : Nat) (shown : String) : Defect → String
  | .notWhole =>
    "invalid literal for int() with base " ++ toString base ++ ": " ++
      String.ofList (shown.toList.take 200)
  | .tooLong n => limitText (": value has " ++ toString n ++ " digits")

/-- What is said of a text, given as shown, that is no double. -/
def fractionMessage (shown : String) : String := "could not convert string to float: " ++ shown

/-- A blank of ASCII. -/
def isPadding (c : Char) : Bool := c == ' ' || (9 ≤ c.toNat && c.toNat ≤ 13)

/-- Whether a character is a digit in a base. -/
def isDigitIn (base : Nat) (c : Char) : Bool :=
  (c.isDigit || (c.toNat < 128 && c.isAlpha)) && digitOf c < base

/-- The digits that letters after a zero announce, by base. -/
def markOf? : Char → Option Nat
  | 'x' => some 16
  | 'X' => some 16
  | 'o' => some 8
  | 'O' => some 8
  | 'b' => some 2
  | 'B' => some 2
  | _ => none

/-- The digits of a text with single underscores between them, without these; the flag says
whether a digit came directly before. -/
def digitGroups? (isDigit : Char → Bool) : Bool → List Char → Option (List Char)
  | afterDigit, [] => if afterDigit then some [] else none
  | afterDigit, c :: cs =>
    if isDigit c then (digitGroups? isDigit true cs).map (c :: ·)
    else if c = '_' ∧ afterDigit then digitGroups? isDigit false cs
    else none

/-- The base of the digits of an unsigned text and the text of the digits. After the mark of a base
one underscore may stand. -/
def splitBase (base : Nat) (cs : List Char) : Nat × List Char :=
  match cs with
  | '0' :: c :: rest =>
    match markOf? c with
    | some b =>
      if base = 0 ∨ base = b then
        (b, match rest with
          | '_' :: ds => ds
          | ds => ds)
      else (base, cs)
    | none => (base, cs)
  | cs => (base, cs)

/-- Whether a base is a power of two. -/
def isBinary (base : Nat) : Bool := [2, 4, 8, 16, 32].contains base

/-- The whole number in a text, in a base that is zero or from 2 to 36. In base zero, a number that
begins with zero is zero. -/
def whole (base : Nat) (cs : List Char) : Except Defect Int :=
  let (negative, rest) := splitSign (trimBy isPadding (plainDigits cs))
  let (found, body) := splitBase base rest
  let used := if found = 0 then 10 else found
  let inNumber (c : Char) := isDigitIn used c || c == '_'
  match digitGroups? (isDigitIn used) false (body.takeWhile inNumber) with
  | none => .error .notWhole
  | some ds =>
    if !isBinary used && digitLimit < ds.length then .error (.tooLong ds.length)
    else if !(body.dropWhile inNumber).isEmpty then .error .notWhole
    else
      let n := natOfDigits used ds
      if found = 0 ∧ ds.head? = some '0' ∧ n ≠ 0 then .error .notWhole
      else .ok (signed negative n)

/-- The text without underscores, each of which has to stand between digits; `last` is the
character before. -/
def joinDigits? : Char → List Char → Option (List Char)
  | last, [] => if last = '_' then none else some []
  | last, c :: cs =>
    if c = '_' then (if last.isDigit then joinDigits? c cs else none)
    else if last = '_' ∧ !c.isDigit then none
    else (joinDigits? c cs).map (c :: ·)

/-- The double in a text. -/
def fraction? (cs : List Char) : Option Double :=
  (joinDigits? ' ' (trimBy isPadding (plainDigits cs))).bind Double.read?

end Literal

end CallContract
