import CallContract.Issue
import CallContract.Number.Reading

/-!
# Scalars

How a single value is taken as a whole number, a double, a truth value, a text, bytes and so on.
Each reading is strict or lax. A strict reading accepts a value of the wanted type and nothing
else, with two exceptions: a double may be written as a whole number, and a text may be the word
of a mode or boundary. A lax reading also accepts other values that stand for one of the wanted
type without loss.
-/

namespace CallContract

/-- The outcome of reading one value. -/
abbrev Reading := Except Complaint Value

namespace Scalar

/-- The bytes of a text. -/
def encode (s : String) : List UInt8 := s.toUTF8.toList

/-- The text that bytes stand for. -/
def decode? (bs : List UInt8) : Option String := String.fromUTF8? ⟨bs.toArray⟩

/-- The characters of a value that is a text or the bytes of one; the flag says whether it is
either. Bytes that are no text give no characters. -/
def characters? : Value → Option (Option (List Char))
  | .bytes bs => some ((decode? bs).map String.toList)
  | v => v.text?.map fun s => some s.toList

/-- The most characters that a whole number in a text may have. -/
def sizeLimit : Nat := 4300

/-- The text of a whole number without the zeros in front of it, which may have underscores among
them; `last` is the zero or underscore before. The last zero stays if nothing or a point follows.
A minus may come after the zeros. -/
def dropZeros? : Char → List Char → Option (List Char)
  | last, [] => some [last]
  | last, c :: cs =>
    if c = '0' ∨ c = '_' then dropZeros? c cs
    else if c = '-' ∨ c.isDigit then some (c :: cs)
    else if c = '.' then some (last :: c :: cs)
    else none

/-- The text of a whole number from its first digit but zero or its minus on. -/
def wholeStart? : List Char → Option (List Char)
  | '0' :: cs => dropZeros? '0' cs
  | '-' :: cs => some ('-' :: cs)
  | c :: cs => if c.isDigit then some (c :: cs) else none
  | [] => none

/-- A text without a plus in front, which no minus may follow. -/
def dropPlus? : List Char → Option (List Char)
  | '+' :: '-' :: _ => none
  | '+' :: cs => some cs
  | cs => some cs

/-- The text before a point, if only zeros follow it, and at least one. -/
def dropFraction (cs : List Char) : List Char :=
  match cs.dropWhile (· ≠ '.') with
  | _ :: z :: zs => if (z :: zs).all (· == '0') then cs.takeWhile (· ≠ '.') else cs
  | _ => cs

/-- A whole number that has neither zeros in front nor underscores. Its size is looked at before
what follows its digits. -/
def readDigits (cs : List Char) : Reading :=
  let (negative, body) := match cs with
    | '-' :: ds => (true, ds)
    | ds => (false, ds)
  let ds := body.takeWhile Char.isDigit
  if ds.isEmpty ∨ (ds.head? = some '0' ∧ 1 < ds.length) then .error .notIntText
  else if sizeLimit < cs.length - body.length + ds.length then .error .intTooLarge
  else if ds.length < body.length then .error .notIntText
  else .ok (.int (signed negative (natOfDigits 10 ds)))

/-- A whole number in a text: blanks around it, a plus, zeros in front, zeros after a point, and
single underscores inside. -/
def readWhole (cs : List Char) : Reading :=
  let start := (dropPlus? (trimBy isSpace cs)).bind wholeStart?
  match start.bind fun cs => dropUnderscores? (dropFraction cs) with
  | some cs => readDigits cs
  | none => .error .notIntText

/-- A double in a text: with blanks around it, or with single underscores inside. -/
def readDouble (cs : List Char) : Reading :=
  match (Double.read? (trimBy isSpace cs)).or ((dropUnderscores? cs).bind Double.read?) with
  | some d => .ok (.ofDouble d)
  | none => .error .notFloatText

/-- The words for true. -/
def trueWords : List String := ["1", "on", "t", "true", "y", "yes"]

/-- The words for false. -/
def falseWords : List String := ["0", "off", "f", "false", "n", "no"]

/-- A truth value in a text: one of the words, in any case. -/
def readBool (cs : List Char) : Reading :=
  let word := String.ofList (cs.map Char.toLower)
  if trueWords.contains word then .ok (.bool true)
  else if falseWords.contains word then .ok (.bool false)
  else .error .notBoolText

/-- Whether a whole number fits into 64 bits with a sign. -/
def fitsWord (i : Int) : Bool := -(twoTo 63 : Int) ≤ i && i < twoTo 63

/-- A whole number for a double without fraction. Numbers of 2⁶³ and beyond are not taken. -/
def wholeOfDouble (d : Double) : Reading :=
  match d.truncate? with
  | none => .error .notFinite
  | some i =>
    if !d.isWhole then .error .hasFraction
    else if i.natAbs < twoTo 63 then .ok (.int i)
    else .error .intTooLarge

/-- A whole number. -/
def int (strict : Bool) (v : Value) : Reading :=
  match v with
  | .int i => .ok (.int i)
  | v =>
    if strict then .error (.mismatch .int)
    else match v with
      | .bool b => .ok (.int (if b then 1 else 0))
      | .float d => wholeOfDouble d
      | .nan _ => .error .notFinite
      | v => match characters? v with
        | some (some cs) => readWhole cs
        | some none => .error .notIntText
        | none => .error (.mismatch .int)

/-- The double for a whole number, if it is not too large. -/
def doubleOfInt (i : Int) : Reading :=
  match Double.ofInt? i with
  | some d => .ok (.float d)
  | none => .error (.mismatch .float)

/-- A double. -/
def float (strict : Bool) (v : Value) : Reading :=
  match v with
  | .float d => .ok (.float d)
  | .nan l => .ok (.nan l)
  | .int i => doubleOfInt i
  | v =>
    if strict then .error (.mismatch .float)
    else match v with
      | .bool b => doubleOfInt (if b then 1 else 0)
      | v => match characters? v with
        | some (some cs) => readDouble cs
        | some none => .error .notFloatText
        | none => .error (.mismatch .float)

/-- A truth value. -/
def bool (strict : Bool) (v : Value) : Reading :=
  match v with
  | .bool b => .ok (.bool b)
  | v =>
    if strict then .error (.mismatch .bool)
    else match v with
      | .int i =>
        if i = 0 then .ok (.bool false)
        else if i = 1 then .ok (.bool true)
        else if fitsWord i then .error .notBoolText
        else .error (.mismatch .bool)
      | .float d =>
        if (Numeral.real d).same (.whole 0) then .ok (.bool false)
        else if (Numeral.real d).same (.whole 1) then .ok (.bool true)
        else .error (.mismatch .bool)
      | v => match characters? v with
        | some (some cs) => readBool cs
        | some none => .error .notBoolText
        | none => .error (.mismatch .bool)

/-- A text. -/
def text (strict : Bool) (v : Value) : Reading :=
  match v.text? with
  | some s => .ok (.text s)
  | none =>
    match v with
    | .bytes bs =>
      if strict then .error (.mismatch .text)
      else match decode? bs with
        | some s => .ok (.text s)
        | none => .error .notUnicode
    | _ => .error (.mismatch .text)

/-- Bytes. -/
def bytes (strict : Bool) (v : Value) : Reading :=
  match v with
  | .bytes bs => .ok (.bytes bs)
  | v => match v.text? with
    | some s => if strict then .error (.mismatch .bytes) else .ok (.bytes (encode s))
    | none => .error (.mismatch .bytes)

/-- Nothing at all. -/
def null (v : Value) : Reading :=
  match v with
  | .null => .ok .null
  | _ => .error (.mismatch .null)

/-- Anything that can be called. -/
def callable (v : Value) : Reading :=
  if v.isCallable then .ok v else .error (.mismatch .callable)

end Scalar

end CallContract
