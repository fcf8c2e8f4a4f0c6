import CallContract.Text.Digit
import CallContract.Text.Quoted

/-!
# Layouts

A layout says how a record of the journal is written. In its text a percent sign begins a field: the
name of a part of the record in brackets, flags, a width, a limit after a point, and a letter for
the form in which the part is written. A second percent sign in place of all that stands for itself.

Whether a text has a field at all is looked at when it is made a layout (`hasField`). Whether its
fields can be filled shows only when a record is written: `Layout.render` gives nothing if one
cannot be, and then nothing is written of the record.
-/

namespace CallContract

/-- A record of the journal. All records are of the lowest level with a name, 10. -/
structure Record where
  source : String
  message : String
  deriving DecidableEq, Repr, Inhabited

/-- The level of all records. -/
def recordLevel : Int := 10

/-- The word for the level of all records. -/
def recordLevelWord : String := "DEBUG"

/-- A part of a record, as it is for a layout. -/
inductive RecordPart where
  | text (s : String)
  | whole (n : Nat)
  /-- What has only one written form. -/
  | other (shown : String)
  deriving DecidableEq, Repr, Inhabited

/-- A part of a record by its name. -/
def Record.part? (r : Record) (name : String) : Option RecordPart :=
  [("levelname", .text recordLevelWord), ("name", .text r.source), ("message", .text r.message),
    ("msg", .text r.message), ("levelno", .whole recordLevel.toNat), ("args", .other "()"),
    ("module", .text ((r.source.splitOn ".").getLastD "")), ("exc_info", .other "None"),
    ("exc_text", .other "None"), ("stack_info", .other "None"),
    ("threadName", .text "MainThread"), ("processName", .text "MainProcess")].lookup name

/-- How a field is brought into its place: flags, a least width, and a limit. -/
structure Fitting where
  flags : List Char
  width : Option Nat
  limit : Option Nat
  deriving DecidableEq, Repr, Inhabited

/-- A piece of a layout: a character, a field, or a place that cannot be filled. A field without a
name is filled with the part that is left over from the field before it. -/
inductive LayoutPiece where
  | char (c : Char)
  | field (name : Option String) (fit : Fitting) (form : Char)
  | unfit
  deriving DecidableEq, Repr, Inhabited

namespace Fitting

/-- The greatest width of a field. -/
def widthLimit : Nat := 10000000

/-- A text in its place: cut to the limit and filled up with blanks, on the right with a minus
among the flags. -/
def placeText (f : Fitting) (cs : List Char) : List Char :=
  let cs := match f.limit with
    | some n => cs.take n
    | none => cs
  let blanks := List.replicate (f.width.getD 0 - cs.length) ' '
  if f.flags.contains '-' then cs ++ blanks else blanks ++ cs

/-- The digits of a number in their place, after the mark for their base. The limit is the least
number of digits; with a zero among the flags, zeros fill the width. -/
def placeDigits (f : Fitting) (mark digits : List Char) : List Char :=
  let digits := List.replicate (f.limit.getD 0 - digits.length) '0' ++ digits
  let sign := if f.flags.contains '+' then ['+'] else if f.flags.contains ' ' then [' '] else []
  let front := sign ++ mark
  let missing := f.width.getD 0 - (front.length + digits.length)
  if f.flags.contains '-' then front ++ digits ++ List.replicate missing ' '
  else if f.flags.contains '0' then front ++ List.replicate missing '0' ++ digits
  else List.replicate missing ' ' ++ front ++ digits

/-- A number in a form. -/
def placeNumber? (f : Fitting) (form : Char) (n : Nat) : Option (List Char) :=
  let marked (mark : String) : List Char := if f.flags.contains '#' then mark.toList else []
  match form with
  | 'x' => some (f.placeDigits (marked "0x") (Nat.toDigits 16 n))
  | 'X' => some (f.placeDigits (marked "0X") ((Nat.toDigits 16 n).map Char.toUpper))
  | 'o' => some (f.placeDigits (marked "0o") (Nat.toDigits 8 n))
  | 'c' => some (({ f with limit := none } : Fitting).placeText [Char.ofNat n])
  | c =>
    if "diu".toList.contains c then some (f.placeDigits [] (Nat.toDigits 10 n))
    else if "sra".toList.contains c then some (f.placeText (Nat.toDigits 10 n))
    else none

/-- A part of a record in a form, in its place. -/
def place? (f : Fitting) (form : Char) : RecordPart → Option (List Char)
  | .text s => match form with
    | 's' => some (f.placeText s.toList)
    | 'r' => some (f.placeText (quoted s).toList)
    | 'a' => some (f.placeText (quotedAscii s).toList)
    | 'c' =>
      if s.length = 1 then some (({ f with limit := none } : Fitting).placeText s.toList) else none
    | _ => none
  | .whole n => f.placeNumber? form n
  | .other shown => if "sra".toList.contains form then some (f.placeText shown.toList) else none

end Fitting

/-- How a record is written. -/
abbrev Layout := List LayoutPiece

namespace Layout

/-- The layout of a record if none is given. -/
def standardText : String := "[%(levelname)s] %(name)s - %(message)s"

/-- A flag of a field. -/
def isFlag (c : Char) : Bool := "#0+ -".toList.contains c

/-- A name between brackets that have been opened `depth` times, and the text after it. -/
def readName? : Nat → List Char → Option (List Char × List Char)
  | _, [] => none
  | depth, c :: cs =>
    if c = ')' ∧ depth ≤ 1 then some ([], cs)
    else
      let inner := if c = '(' then depth + 1 else if c = ')' then depth - 1 else depth
      (readName? inner cs).map fun (name, rest) => (c :: name, rest)

/-- A row of digits, if there is one, and the text after it. -/
def readNumber (cs : List Char) : Option Nat × List Char :=
  ((String.ofList (cs.takeWhile Char.isDigit)).toNat?, cs.dropWhile Char.isDigit)

/-- The field after a percent sign, and the text after it. -/
def readField? (cs : List Char) : Option (LayoutPiece × List Char) := do
  let (name, cs) ← match cs with
    | '(' :: rest => (readName? 1 rest).map fun (name, rest) => (some (String.ofList name), rest)
    | cs => some (none, cs)
  let flags := cs.takeWhile isFlag
  let (width, cs) := readNumber (cs.dropWhile isFlag)
  let (limit, cs) := match cs with
    | '.' :: cs =>
      let (limit, cs) := readNumber cs
      (some (limit.getD 0), cs)
    | cs => (none, cs)
  let cs := match cs with
    | c :: rest => if "hlL".toList.contains c then rest else cs
    | [] => cs
  match cs with
  | [] => none
  | form :: rest =>
    if Fitting.widthLimit < width.getD 0 then return (.unfit, rest)
    else return (.field name ⟨flags, width, limit⟩ form, rest)

/-- The layout that a text describes. The measure bounds the number of pieces. -/
def read : Nat → List Char → Layout
  | 0, _ => []
  | _, [] => []
  | fuel + 1, c :: cs =>
    if c = '%' then
      match readField? cs with
      | some (piece, rest) => piece :: read fuel rest
      | none => [.unfit]
    else .char c :: read fuel cs

/-- A character of a name: a letter, a digit or an underscore. All letters beyond ASCII count. -/
def isNameChar (c : Char) : Bool := c.isAlphanum || c == '_' || 128 ≤ c.toNat

/-- The text after a star or a row of digits, if one is there. -/
def skipAmount? (cs : List Char) : Option (List Char) :=
  match cs with
  | '*' :: rest => some rest
  | cs =>
    let rest := (plainDigits cs).dropWhile Char.isDigit
    if rest.length < cs.length then some rest else none

/-- Whether a field that is named begins with the percent sign before a text. -/
def startsField (cs : List Char) : Bool :=
  match cs with
  | '(' :: cs =>
    match cs.takeWhile isNameChar, cs.dropWhile isNameChar with
    | _ :: _, ')' :: cs =>
      let cs := cs.dropWhile isFlag
      let cs := (skipAmount? cs).getD cs
      let cs := match cs with
        | '.' :: rest => (skipAmount? rest).getD cs
        | cs => cs
      match cs with
      | form :: _ => "diouxefgcrsa%".toList.contains form.toLower
      | [] => false
    | _, _ => false
  | _ => false

/-- Whether a field that is named is in a text. -/
def hasField : List Char → Bool
  | [] => false
  | c :: cs => (c == '%' && startsField cs) || hasField cs

/-- The layout that a text describes; it has to have a field. An empty text stands for the
message alone. -/
def ofText? (s : String) : Option Layout :=
  let text := if s = "" then "%(message)s".toList else s.toList
  if hasField text then some (read text.length text) else none

/-- Fill in a layout, if all its fields can be filled. A part of the record that was named and not
used may be left over. -/
def fill (r : Record) : Option RecordPart → Layout → Option (List Char)
  | _, [] => some []
  | left, .char c :: ps => (fill r left ps).map (c :: ·)
  | _, .unfit :: _ => none
  | left, .field name fit form :: ps => do
    let left ← match name with
      | some n => some <$> r.part? n
      | none => some left
    if form = '%' then return '%' :: (← fill r left ps)
    else return (← fit.place? form (← left)) ++ (← fill r none ps)

/-- A record in a layout. -/
def render (l : Layout) (r : Record) : Option String := (fill r none l).map String.ofList

end Layout

end CallContract
