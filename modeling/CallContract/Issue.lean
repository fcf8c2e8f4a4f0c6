import CallContract.Value.Printer

/-!
# Issues and failures

When a value does not match a schema, each thing that is wrong with it is an issue: where it
is, what is wrong, and the value found there. A failure is the list of all issues, with the
boundary and the function at which they were found, if any. `Failure.text` has one line for each
issue under a heading; a lone issue without a boundary stands for itself.
-/

namespace CallContract

/-- One step into a value: an index, or a key or field. -/
inductive Place where
  | index (i : Int)
  | key (s : String)
  deriving DecidableEq, Repr, Inhabited

/-- The text of a place. -/
def Place.text : Place → String
  | .index i => toString i
  | .key s => s

/-- The types that a value can be expected to have. -/
inductive Expected where
  | text
  | int
  | float
  | bool
  | bytes
  | list
  | tuple
  | dict
  | set
  | frozenset
  | callable
  | null
  deriving DecidableEq, Repr, Inhabited

namespace Expected

/-- The word for an expected type. -/
def word : Expected → String
  | text => "string"
  | int => "integer"
  | float => "number"
  | bool => "boolean"
  | bytes => "bytes"
  | list => "list"
  | tuple => "tuple"
  | dict => "dict"
  | set => "set"
  | frozenset => "frozenset"
  | callable => "function"
  | null => "None"

/-- The code of the issue that another type was found. -/
def code : Expected → String
  | text => "string_type"
  | int => "int_type"
  | float => "float_type"
  | bool => "bool_type"
  | bytes => "bytes_type"
  | list => "list_type"
  | tuple => "tuple_type"
  | dict => "dict_type"
  | set => "set_type"
  | frozenset => "frozen_set_type"
  | callable => "callable_type"
  | null => "none_required"

end Expected

/-- The two sorts of sequences whose length is checked. -/
inductive SequenceKind where
  | list
  | tuple
  deriving DecidableEq, Repr, Inhabited

/-- The word for a sort of sequence. -/
def SequenceKind.word : SequenceKind → String
  | .list => "List"
  | .tuple => "Tuple"

/-- The ways in which a number is bounded by another. -/
inductive Bound where
  | below
  | atMost
  | above
  | atLeast
  deriving DecidableEq, Repr, Inhabited

namespace Bound

/-- The words for a bound. -/
def words : Bound → String
  | below => "less than"
  | atMost => "less than or equal to"
  | above => "greater than"
  | atLeast => "greater than or equal to"

/-- The code of the issue that a number is outside a bound. -/
def code : Bound → String
  | below => "less_than"
  | atMost => "less_than_equal"
  | above => "greater_than"
  | atLeast => "greater_than_equal"

end Bound

/-- What is wrong with a value. -/
inductive Complaint where
  | mismatch (e : Expected)
  | missing
  | tooLong (what : SequenceKind) (limit : Nat) (actual : Option Nat)
  | tooShort (limit actual : Nat)
  | refused (message : String)
  | valueError (text : String)
  | assertionError (text : String)
  | notFinite
  | hasFraction
  | intTooLarge
  | notIntText
  | notFloatText
  | notBoolText
  | notUnicode
  | notPoint
  | notHashable
  | extraField
  | keyNotText
  | frozen
  | notArguments
  | missingArgument
  | missingPositional
  | missingKeyword
  | extraPositional
  | extraKeyword
  | doubledArgument
  | outOfBound (b : Bound) (limit : String)
  | notMultiple (of : Int)
  | textLength (short : Bool) (limit : Nat)
  | dataLength (short : Bool) (limit : Nat)
  | notAmong (choices : String)
  deriving DecidableEq, Repr, Inhabited

namespace Complaint

/-- The code of a complaint. -/
def code : Complaint → String
  | mismatch e => e.code
  | missing => "missing"
  | tooLong .. => "too_long"
  | tooShort .. => "too_short"
  | refused _ => "refinement_failed"
  | valueError _ => "value_error"
  | assertionError _ => "assertion_error"
  | notFinite => "finite_number"
  | hasFraction => "int_from_float"
  | intTooLarge => "int_parsing_size"
  | notIntText => "int_parsing"
  | notFloatText => "float_parsing"
  | notBoolText => "bool_parsing"
  | notUnicode => "string_unicode"
  | notPoint => "model_type"
  | notHashable => "set_item_not_hashable"
  | extraField => "extra_forbidden"
  | keyNotText => "invalid_key"
  | frozen => "frozen_instance"
  | notArguments => "arguments_type"
  | missingArgument => "missing_argument"
  | missingPositional => "missing_positional_only_argument"
  | missingKeyword => "missing_keyword_only_argument"
  | extraPositional => "unexpected_positional_argument"
  | extraKeyword => "unexpected_keyword_argument"
  | doubledArgument => "multiple_argument_values"
  | outOfBound b _ => b.code
  | notMultiple _ => "multiple_of"
  | textLength short _ => if short then "string_too_short" else "string_too_long"
  | dataLength short _ => if short then "bytes_too_short" else "bytes_too_long"
  | notAmong _ => "literal_error"

/-- So many of something, in words; one of it goes by the word itself. -/
def counted (n : Nat) (word : String) : String :=
  toString n ++ " " ++ (if n = 1 then word else word ++ "s")

/-- The words for a least or a greatest number. -/
def limitWords (least : Bool) : String := if least then "at least " else "at most "

/-- A number of items, in words. -/
def itemCount (n : Nat) : String := counted n "item"

/-- A length in words, as far as it is known. -/
def lengthWord : Option Nat → String
  | some n => toString n
  | none => "more"

/-- The message of a complaint about a value of type `received`. -/
def message (received : String) : Complaint → String
  | mismatch e => "Expected " ++ e.word ++ ", received " ++ received
  | missing => "Field required"
  | tooLong what limit actual =>
    what.word ++ " should have at most " ++ itemCount limit ++ " after validation, not " ++
      lengthWord actual
  | tooShort limit actual =>
    "List should have at least " ++ itemCount limit ++ " after validation, not " ++
      toString actual
  | refused m => m
  | valueError t => "Value error, " ++ t
  | assertionError t => "Assertion failed, " ++ t
  | notFinite => "Input should be a finite number"
  | hasFraction => "Input should be a valid integer, got a number with a fractional part"
  | intTooLarge => "Unable to parse input string as an integer, exceeded maximum size"
  | notIntText => "Input should be a valid integer, unable to parse string as an integer"
  | notFloatText => "Input should be a valid number, unable to parse string as a number"
  | notBoolText => "Input should be a valid boolean, unable to interpret input"
  | notUnicode => "Input should be a valid string, unable to parse raw data as a unicode string"
  | notPoint => "Input should be a valid dictionary or instance of Point"
  | notHashable => "Set items should be hashable"
  | extraField => "Extra inputs are not permitted"
  | keyNotText => "Keys should be strings"
  | frozen => "Instance is frozen"
  | notArguments => "Arguments must be a tuple, list or a dictionary"
  | missingArgument => "Missing required argument"
  | missingPositional => "Missing required positional only argument"
  | missingKeyword => "Missing required keyword only argument"
  | extraPositional => "Unexpected positional argument"
  | extraKeyword => "Unexpected keyword argument"
  | doubledArgument => "Got multiple values for argument"
  | outOfBound b limit => "Input should be " ++ b.words ++ " " ++ limit
  | notMultiple d => "Input should be a multiple of " ++ toString d
  | textLength short n => "String should have " ++ limitWords short ++ counted n "character"
  | dataLength short n => "Data should have " ++ limitWords short ++ counted n "byte"
  | notAmong choices => "Input should be " ++ choices

/-- The message of a complaint that does not say what was received. -/
def plainMessage : Complaint → String
  | mismatch .dict => "Input should be a valid dictionary"
  | mismatch .callable => "Input should be callable"
  | mismatch .null => "Input should be None"
  | mismatch e => "Input should be a valid " ++ e.word
  | c => c.message ""

end Complaint

/-- One thing that is wrong with a value. -/
structure Issue where
  place : List Place
  complaint : Complaint
  input : Value
  deriving Inhabited

namespace Issue

/-- An issue with a whole value. -/
def here (c : Complaint) (v : Value) : Issue := ⟨[], c, v⟩

/-- The issue as seen from outside the place `p`. -/
def within (p : Place) (i : Issue) : Issue := { i with place := p :: i.place }

/-- The message of an issue. -/
def message (i : Issue) : String := i.complaint.message i.input.kindName

@[simp] theorem within_complaint (p : Place) (i : Issue) :
    (i.within p).complaint = i.complaint := rfl

@[simp] theorem within_input (p : Place) (i : Issue) : (i.within p).input = i.input := rfl

@[simp] theorem within_place (p : Place) (i : Issue) : (i.within p).place = p :: i.place := rfl

@[simp] theorem within_message (p : Place) (i : Issue) : (i.within p).message = i.message := rfl

end Issue

/-- The line for one issue: where it is, if that is not the whole value, and its message. -/
def issueLine (place : List String) (message : String) : String :=
  let loc := String.intercalate "." place
  if loc = "" then message else loc ++ ": " ++ message

/-- The text of a report with one line for each issue. -/
def reportText (boundary function : Option String) (lines : List String) : String :=
  let body (heading : String) :=
    String.intercalate "\n" ((heading ++ ":") :: lines.map ("  - " ++ ·))
  match boundary, lines with
  | some b, _ =>
    let name := function.getD ""
    body ("Invalid " ++ b ++ " for " ++ (if name = "" then "<function>" else name))
  | none, [line] => line
  | none, _ => body "Validation failed"

/-- A value that does not match its schema. -/
structure Failure where
  issues : List Issue
  boundary : Option Boundary
  function : Option String
  deriving Inhabited

namespace Failure

/-- The line for an issue of a failure. -/
def line (i : Issue) : String := issueLine (i.place.map Place.text) i.message

/-- The text of a failure. -/
def text (f : Failure) : String :=
  reportText (f.boundary.map Boundary.word) f.function (f.issues.map line)

/-- The failure with another boundary and function, which is given by what it goes by. What counts
as false is no name. -/
def withContext (f : Failure) (boundary : Boundary) (name : Value) : Failure :=
  ⟨f.issues, some boundary, if name.isTruthy then some name.print else name.text?⟩

@[simp] theorem withContext_issues (f : Failure) (b : Boundary) (n : Value) :
    (f.withContext b n).issues = f.issues := rfl

end Failure

end CallContract
