/-!
# UTF-8

A text of Unicode is stored as bytes, one to four for a character. `utf8Defect?` finds the first
place at which bytes stand for no character, and says what is wrong there. The bytes are looked at
in portions, and places are counted within a portion; a character that a portion cuts off is left
for the next one.
-/

namespace CallContract

/-- What is wrong with the bytes at a place, and how many of them belong to it. -/
inductive Utf8Defect where
  | badStart
  | badNext (read : Nat)
  | cutOff
  deriving DecidableEq, Repr, Inhabited

/-- What is said of a defect. -/
def Utf8Defect.reason : Utf8Defect → String
  | badStart => "invalid start byte"
  | badNext _ => "invalid continuation byte"
  | cutOff => "unexpected end of data"

/-- Whether a byte goes on with a character. -/
def isContinuation (b : Nat) : Bool := 0x80 ≤ b && b < 0xC0

/-- Whether a byte may come second after the first one of a longer character. The shortest form
counts, and there are no characters in the range of surrogates or beyond the last one. -/
def isSecond (first second : Nat) : Bool :=
  isContinuation second && !(first == 0xE0 && second < 0xA0) && !(first == 0xED && 0xA0 ≤ second) &&
    !(first == 0xF0 && second < 0x90) && !(first == 0xF4 && 0x90 ≤ second)

/-- The number of bytes of a character by its first one. -/
def utf8Length? (first : Nat) : Option Nat :=
  if first < 0x80 then some 1
  else if first < 0xC2 then none
  else if first < 0xE0 then some 2
  else if first < 0xF0 then some 3
  else if first < 0xF5 then some 4
  else none

/-- The number of bytes of the character in front, or what is wrong with it. -/
def firstLength (bs : List Nat) : Except Utf8Defect Nat :=
  match bs with
  | [] => .error .cutOff
  | a :: rest =>
    match utf8Length? a with
    | none => .error .badStart
    | some n =>
      let good := match rest with
        | [] => []
        | b :: more => if isSecond a b then b :: more.takeWhile isContinuation else []
      let read := 1 + min (n - 1) good.length
      if read = n then .ok n
      else if read < bs.length then .error (.badNext read)
      else .error .cutOff

/-- The first defect in a portion with its place and the bytes from there on. The measure bounds the
number of characters. -/
def portionDefect? : Nat → Nat → List Nat → Option (Utf8Defect × Nat × List Nat)
  | 0, _, _ => none
  | _, _, [] => none
  | fuel + 1, place, bs =>
    match firstLength bs with
    | .ok n => portionDefect? fuel (place + n) (bs.drop n)
    | .error d => some (d, place, bs)

/-- How many of the bytes from a defect on belong to it. -/
def Utf8Defect.count (bs : List Nat) : Utf8Defect → Nat
  | badStart => 1
  | badNext n => n
  | cutOff => bs.length

/-- The text about a defect. -/
def defectText (d : Utf8Defect) (place : Nat) (bs : List Nat) : String :=
  let count := d.count bs
  let subject :=
    if count = 1 then
      let digits := Nat.toDigits 16 (bs.headD 0)
      "byte 0x" ++ String.ofList (List.replicate (2 - digits.length) '0' ++ digits) ++
        " in position " ++ toString place
    else "bytes in position " ++ toString place ++ "-" ++ toString (place + count - 1)
  "'utf-8' codec can't decode " ++ subject ++ ": " ++ d.reason

/-- The number of bytes in a portion. -/
def portionSize : Nat := 8192

/-- The text about the first defect in bytes; `left` is what the portion before has cut off. The
measure bounds the number of portions. -/
def portionsDefect? : Nat → List Nat → List Nat → Option String
  | 0, _, _ => none
  | fuel + 1, left, bs =>
    let portion := left ++ bs.take portionSize
    match portionDefect? portion.length 0 portion with
    | some (.cutOff, place, rest) =>
      if bs.isEmpty then some (defectText .cutOff place rest)
      else portionsDefect? fuel rest (bs.drop portionSize)
    | some (d, place, rest) => some (defectText d place rest)
    | none => if bs.isEmpty then none else portionsDefect? fuel [] (bs.drop portionSize)

/-- The text about the first defect in bytes, if they are no text. -/
def utf8Defect? (bs : List UInt8) : Option String :=
  portionsDefect? (bs.length + 2) [] (bs.map UInt8.toNat)

example : utf8Defect? [0x61, 0xC3] =
    some "'utf-8' codec can't decode byte 0xc3 in position 0: unexpected end of data" := by
  decide +kernel

end CallContract
