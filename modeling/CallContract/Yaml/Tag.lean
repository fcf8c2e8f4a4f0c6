import CallContract.Yaml.Moment
import CallContract.Yaml.Token

/-!
# Tags

The tag of a node says what the node stands for. A tag can be written out; a plain scalar without
one gets its tag by its spelling, as nothing, a truth value, a number or a moment, and is otherwise
a text (`Tag.ofSpelling`).
-/

namespace CallContract.Yaml

/-- What a node can stand for. -/
inductive Tag where
  | null
  | bool
  | int
  | float
  | moment
  | bytes
  | text
  /-- The mark for entries that are taken over from other mappings. -/
  | merge
  /-- The mark for the entry that a mapping is replaced by where a scalar is wanted. -/
  | default
  | sequence
  | mapping
  | set
  /-- A sequence of mappings with one entry each. -/
  | pairs
  /-- Any other tag, which stands for nothing. -/
  | unknown
  deriving DecidableEq, Repr, Inhabited

/-- The beginning of the tags of the language itself. -/
def ownTag : String := "tag:yaml.org,2002:"

namespace Tag

/-- The tags of the language itself, by what follows their common beginning. -/
def words : List (String × Tag) :=
  [("null", null), ("bool", bool), ("int", int), ("float", float), ("timestamp", moment),
    ("binary", bytes), ("str", text), ("merge", merge), ("value", default), ("seq", sequence),
    ("map", mapping), ("set", set), ("omap", pairs), ("pairs", pairs)]

/-- A tag that is written out in full. -/
def ofText (tag : String) : Tag :=
  ((words.find? fun (word, _) => ownTag ++ word == tag).map (·.2)).getD unknown

/-- Whether a node with the tag is a container, which is made first and filled later. -/
def isContainer : Tag → Bool
  | sequence => true
  | mapping => true
  | set => true
  | pairs => true
  | _ => false

/-- Whether a node with the tag has a text that tells its value. -/
def holdsText : Tag → Bool
  | merge => false
  | default => false
  | unknown => false
  | t => !t.isContainer

end Tag

/-- Words for true. -/
def trueWords : List String :=
  ["yes", "Yes", "YES", "true", "True", "TRUE", "on", "On", "ON"]

/-- Words for false. -/
def falseWords : List String :=
  ["no", "No", "NO", "false", "False", "FALSE", "off", "Off", "OFF"]

/-- Words for nothing. -/
def nullWords : List String := ["~", "null", "Null", "NULL", ""]

/-- A digit or an underscore. -/
def isDigitOrLine (c : Char) : Bool := c.isDigit || c == '_'

/-- The parts of a text between colons. -/
def colonParts (cs : List Char) : List (List Char) :=
  (String.ofList cs).splitOn ":" |>.map String.toList

/-- One or two digits that are less than sixty. -/
def isSixtieth : List Char → Bool
  | [a] => a.isDigit
  | [a, b] => '0' ≤ a && a ≤ '5' && b.isDigit
  | _ => false

/-- Whether a text without sign is spelled like a whole number: in base two, eight, ten or
sixteen, or with sixtieths after colons. -/
def isWholeSpelling (cs : List Char) : Bool :=
  match cs with
  | '0' :: 'b' :: ds => !ds.isEmpty && ds.all fun c => c == '0' || c == '1' || c == '_'
  | '0' :: 'x' :: ds =>
    !ds.isEmpty && ds.all fun c => (Token.hexValue? c).isSome || c == '_'
  | '0' :: ds => ds.all fun c => ('0' ≤ c && c ≤ '7') || c == '_'
  | c :: _ =>
    c.isDigit &&
      match colonParts cs with
      | [ds] => ds.all isDigitOrLine
      | ds :: rest => ds.all isDigitOrLine && rest.all isSixtieth
      | [] => false
  | [] => false

/-- Whether a text is an exponent with a sign, or nothing. -/
def isSignedExponent : List Char → Bool
  | [] => true
  | e :: s :: ds =>
    (e == 'e' || e == 'E') && (s == '+' || s == '-') && !ds.isEmpty && ds.all Char.isDigit
  | _ => false

/-- Whether a text without sign, which it had if `hadSign`, is spelled like a fraction. -/
def isFractionSpelling (hadSign : Bool) (cs : List Char) : Bool :=
  let words := [".inf", ".Inf", ".INF"]
  let nans := [".nan", ".NaN", ".NAN"]
  let word := String.ofList cs
  words.contains word || (!hadSign && nans.contains word) ||
    match cs with
    | '.' :: d :: rest => !hadSign && d.isDigit && isSignedExponent (rest.dropWhile isDigitOrLine)
    | d :: _ =>
      d.isDigit &&
        match colonParts cs with
        | [cs] =>
          match cs.dropWhile isDigitOrLine with
          | '.' :: rest => isSignedExponent (rest.dropWhile isDigitOrLine)
          | _ => false
        | whole :: rest =>
          whole.all isDigitOrLine && rest.dropLast.all isSixtieth &&
            match rest.getLast? with
            | some last =>
              let (front, back) := last.span (· != '.')
              isSixtieth front && !back.isEmpty && (back.drop 1).all isDigitOrLine
            | none => false
        | [] => false
    | [] => false

/-- The words that stand for something else than a text, with what they stand for. -/
def Tag.ofWord? (word : String) : Option Tag :=
  if nullWords.contains word then some .null
  else if trueWords.contains word || falseWords.contains word then some .bool
  else if word == "<<" then some .merge
  else if word == "=" then some .default
  else if ["!", "&", "*"].contains word then some .unknown
  else none

/-- The tag that a text has by its spelling. A line break at its end does not count, unless there is
nothing before it. -/
def Tag.ofSpelling (s : String) : Tag :=
  let cs := dropBreak s.toList
  let (_, unsigned) := splitSign cs
  if cs.isEmpty then (if s == "" then .null else .text)
  else match Tag.ofWord? (String.ofList cs) with
    | some t => t
    | none =>
      if isFractionSpelling (unsigned.length != cs.length) unsigned then .float
      else if isWholeSpelling unsigned then .int
      else if isMomentSpelling cs then .moment
      else .text

end CallContract.Yaml
