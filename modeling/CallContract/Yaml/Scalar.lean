import CallContract.Number.Literal
import CallContract.Text.LowerCase
import CallContract.Text.Quoted
import CallContract.Yaml.Tag

/-!
# The values of scalars

What the text of a scalar stands for, by its tag. A text with a tag that is written out need not be
spelled like what the tag says, so that some texts stand for nothing.
-/

namespace CallContract.Yaml

/-- The truth value that a word names. -/
def boolValue (s : String) : Except Defect Value :=
  let word := lowerCase s
  if trueWords.contains word then .ok (.bool true)
  else if falseWords.contains word then .ok (.bool false)
  else .error (.noWord (quoted word))

/-- A whole number in a base. -/
def readWhole (base : Nat) (cs : List Char) : Except Defect Int :=
  (Literal.whole base cs).mapError fun d =>
    .badValue (d.message base (quoted (String.ofList cs)))

/-- A double. -/
def readFraction (cs : List Char) : Except Defect Double :=
  match Literal.fraction? cs with
  | some d => .ok d
  | none => .error (.badValue (Literal.fractionMessage (quoted (String.ofList cs))))

/-- The number with sixtieths after colons. -/
def sixtieths (parts : List Int) : Int := parts.foldl (fun n p => 60 * n + p) 0

/-- The whole number in a text without sign. -/
def unsignedWhole (cs : List Char) : Except Defect Int :=
  match cs with
  | [] => .error .noDigits
  | ['0'] => .ok 0
  | '0' :: 'b' :: ds => readWhole 2 ds
  | '0' :: 'x' :: ds => readWhole 16 ds
  | '0' :: _ => readWhole 8 cs
  | cs =>
    if cs.contains ':' then do
      let parts ← (colonParts cs).mapM (readWhole 10)
      return sixtieths parts
    else readWhole 10 cs

/-- The whole number in a text; underscores do not count. -/
def wholeValue (s : String) : Except Defect Value := do
  let (negative, cs) := splitSign (s.toList.filter (· != '_'))
  let n ← unsignedWhole cs
  return .int (if negative then -n else n)

/-- The sum of doubles, each of which counts sixty times as much as the one before it, if its weight
is not too large. -/
def sumOfSixtieths (unit : Int) (sum : Double) : List Double → Except Defect Double
  | [] => .ok sum
  | d :: ds =>
    match Double.ofInt? unit with
    | some u => sumOfSixtieths (60 * unit) (sum.add (d.mul u)) ds
    | none => .error .tooLarge

/-- A double with a sign. -/
def signedDouble (negative : Bool) (d : Double) : Value :=
  .ofDouble (if negative then d.neg else d)

/-- The double in a text; neither underscores nor case count. -/
def fractionValue (s : String) : Except Defect Value :=
  let (negative, cs) := splitSign (lowerCase (String.ofList (s.toList.filter (· != '_')))).toList
  if s.toList.all (· == '_') then .error .noDigits
  else if cs == ".inf".toList then .ok (.float (.infinite negative))
  else if cs == ".nan".toList then .ok (.nan .notNumber)
  else if cs.contains ':' then do
    let ds ← (colonParts cs).mapM readFraction
    return signedDouble negative (← sumOfSixtieths 1 (.zero false) ds.reverse)
  else do
    return signedDouble negative (← readFraction cs)

/-- The number that a character of base 64 stands for. -/
def sixBits? (c : Char) : Option Nat :=
  if c.isUpper then some (c.toNat - 'A'.toNat)
  else if c.isLower then some (c.toNat - 'a'.toNat + 26)
  else if c.isDigit then some (c.toNat - '0'.toNat + 52)
  else if c == '+' then some 62
  else if c == '/' then some 63
  else none

/-- The bytes that characters of base 64 stand for. Of the group of four being read, `count`
characters have been read, whose bits that make no whole byte are `left`; `pads` counts the
padding since then. Other characters are passed over. -/
def readBase64 (count left pads : Nat) : List Char → Option (List UInt8)
  | [] => if count = 0 then some [] else none
  | c :: cs =>
    if c == '=' then
      if 2 ≤ count then
        if 4 ≤ count + (pads + 1) then some [] else readBase64 count left (pads + 1) cs
      else readBase64 count left pads cs
    else match sixBits? c with
      | none => readBase64 count left pads cs
      | some n =>
        match count with
        | 0 => readBase64 1 n 0 cs
        | 1 => (readBase64 2 (n % 16) 0 cs).map ((left * 4 + n / 16).toUInt8 :: ·)
        | 2 => (readBase64 3 (n % 4) 0 cs).map ((left * 16 + n / 4).toUInt8 :: ·)
        | _ => (readBase64 0 0 0 cs).map ((left * 64 + n).toUInt8 :: ·)

/-- The bytes that a text stands for in base 64; all its characters are ASCII. -/
def bytesValue (s : String) : Except Defect Value :=
  if s.toList.all fun c => c.toNat < 128 then
    match readBase64 0 0 0 s.toList with
    | some bs => .ok (.bytes bs)
    | none => .error .malformed
  else .error .malformed

/-- The value of a text by a tag that is not that of a container. -/
def textValue (tag : Tag) (text : String) : Except Defect Value :=
  match tag with
  | .null => .ok .null
  | .bool => boolValue text
  | .int => wholeValue text
  | .float => fractionValue text
  | .moment => momentValue text
  | .bytes => bytesValue text
  | .text => .ok (.text text)
  | _ => .error .malformed

end CallContract.Yaml
