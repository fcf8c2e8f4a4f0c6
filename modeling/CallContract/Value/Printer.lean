import CallContract.Number.Literal
import CallContract.Text.Quoted
import CallContract.Value

/-!
# The text of values

`Value.shown` writes a value so that its sort can be seen: texts stand between quotes, containers
in their brackets, schemas and contracts by their constructor and fields. `Value.text` is what a
message shows of a value: a text stands for itself, all else is written as by `shown`, with a
short form for modes, points and settings.

A whole number with too many digits cannot be written. `Value.shown?` gives nothing for a value with
such a number in it; where a text is wanted all the same, `Value.shown` puts a mark in its place.
-/

namespace CallContract

/-- A piece of a text. A whole number with too many digits has none. -/
inductive Piece where
  | text (s : String)
  | unwritable
  deriving DecidableEq, Repr, Inhabited

instance : Coe String Piece := ⟨.text⟩

/-- The least whole number with too many digits. -/
def Piece.wholeLimit : Nat := tenTo Literal.digitLimit

/-- The piece for a whole number. -/
def Piece.ofInt (i : Int) : Piece :=
  if i.natAbs < wholeLimit then .text (toString i) else .unwritable

/-- The text of a piece, if it has one. -/
def Piece.text? : Piece → Option String
  | text s => some s
  | unwritable => none

/-- The text of a piece, or the mark in its place. -/
def Piece.mark : Piece → String
  | text s => s
  | unwritable => "<unprintable int object>"

/-- Texts joined by commas. -/
def commas (parts : List String) : String := String.intercalate ", " parts

/-- The name under which a mode is declared. -/
def Mode.declared : Mode → String
  | .none => "NONE"
  | .args => "ARGS"
  | .ret => "RET"
  | .both => "BOTH"

/-- The name under which a boundary is declared. -/
def Boundary.declared : Boundary → String
  | .args => "ARGS"
  | .result => "RETURN"

/-- A mode with its name and word. -/
def Mode.shown (m : Mode) : String :=
  "<ValidationMode." ++ m.declared ++ ": " ++ quoted m.word ++ ">"

/-- A boundary with its name and word. -/
def Boundary.shown (b : Boundary) : String :=
  "<Boundary." ++ b.declared ++ ": " ++ quoted b.word ++ ">"

/-- The name of a basic type inside a longer annotation. -/
def BaseType.inner : BaseType → String
  | .any => "typing.Any"
  | .callable => "typing.Callable"
  | .point => homeName ++ ".Point"
  | t => t.word

/-- A basic type on its own. -/
def BaseType.shown : BaseType → String
  | .any => "typing.Any"
  | .callable => "typing.Callable"
  | t => "<class '" ++ t.inner ++ "'>"

/-- What stands before and after the parts of an annotation. -/
def Form.brackets : Form → String × String
  | .list => ("list[", "]")
  | .set => ("set[", "]")
  | .frozenset => ("frozenset[", "]")
  | .optional => ("typing.Optional[", "]")
  | .dict => ("dict[", "]")
  | .variadic => ("tuple[", ", ...]")
  | .fixed => ("tuple[", "]")
  | .marked => ("typing.Annotated[", "]")
  | .reference => ("ForwardRef(", ")")
  | .union => ("typing.Union[", "]")
  | .literal => ("typing.Literal[", "]")
  | .other n => (n ++ "[", "]")
  | .validator _ => ("SchemaValidator(", ")")

/-- The settings, field by field. -/
def settingsFields (m : Mode) (strict : Bool) : List String :=
  ["default_mode=" ++ m.shown, "strict=" ++ (if strict then "True" else "False")]

/-- A numeral. -/
def Numeral.piece : Numeral → Piece
  | .whole i => .ofInt i
  | n => .text n.text

/-- An optional bound. -/
def boundPiece : Option Numeral → Piece
  | none => "None"
  | some n => n.piece

/-- Pieces of text with commas between them. -/
def separated : List (List Piece) → List Piece
  | [] => []
  | [p] => p
  | p :: ps => List.flatten [p, [", "], separated ps]

/-- A piece between two texts. -/
def enclosed (before : String) (ps : List Piece) (after : String) : List Piece :=
  .text before :: ps ++ [.text after]

/-- The end of a tuple: a lone item has a comma after it. -/
def tupleEnd (count : Nat) : String := if count = 1 then ",)" else ")"

/-- The bare name of a value that is a basic type. -/
def Value.baseName? : Value → Option String
  | .type t => some t.inner
  | _ => none

/-- What a message shows of a value that is a text, a mode or a boundary. -/
def Value.wordPiece? : Value → Option Piece
  | .text s => some s
  | .mode m => some ("ValidationMode." ++ m.declared)
  | .boundary b => some ("Boundary." ++ b.declared)
  | _ => none

mutual

/-- The pieces of a value written so that its sort can be seen. -/
def Value.pieces : Value → List Piece
  | .null => ["None"]
  | .bool b => [if b then "True" else "False"]
  | .int i => [.ofInt i]
  | .float d => [d.text]
  | .nan _ => ["nan"]
  | .text s => [quoted s]
  | .bytes bs => [quotedBytes bs]
  | .list _ xs => enclosed "[" (separated (itemPieces xs)) "]"
  | .tuple _ xs => enclosed "(" (separated (itemPieces xs)) (tupleEnd xs.length)
  | .set _ xs =>
    if xs.isEmpty then ["set()"] else enclosed "\x7b" (separated (itemPieces xs)) "\x7d"
  | .frozenset _ xs =>
    if xs.isEmpty then ["frozenset()"]
    else enclosed "frozenset(\x7b" (separated (itemPieces xs)) "\x7d)"
  | .dict _ es => enclosed "\x7b" (separated (entryPieces es)) "\x7d"
  | .mode m => [m.shown]
  | .boundary b => [b.shown]
  | .point _ x y _ => List.flatten [["Point(x="], x.pieces, [", y="], y.pieces, [")"]]
  | .token n _ => ["<opaque ", n, ">"]
  | .record _ fs => enclosed "namespace(" (separated (fieldPieces fs)) ")"
  | .type t => [t.shown]
  | .form _ f xs =>
    if xs.isEmpty then [f.brackets.1, "()", f.brackets.2]
    else enclosed f.brackets.1 (separated (innerPieces xs)) f.brackets.2
  | .schema s => s.pieces
  | .contract c => c.pieces
  | .function f => f.pieces
  | .settings _ m s _ => ["ContractConfig(", commas (settingsFields m s), ")"]
  | .pending _ n => ["<coroutine object ", n, ">"]
  | .other _ s _ => [s]

/-- The pieces of each item. -/
def itemPieces : List Value → List (List Piece)
  | [] => []
  | x :: xs => x.pieces :: itemPieces xs

/-- The pieces of each entry of a dictionary. -/
def entryPieces : List (Value × Value) → List (List Piece)
  | [] => []
  | (k, v) :: es => List.flatten [k.pieces, [": "], v.pieces] :: entryPieces es

/-- The pieces of each field of a record. -/
def fieldPieces : List (String × Value) → List (List Piece)
  | [] => []
  | (n, v) :: fs => List.flatten [[.text n, "="], v.pieces] :: fieldPieces fs

/-- The pieces of each part of an annotation: of the types among them, the bare names. -/
def innerPieces : List Value → List (List Piece)
  | [] => []
  | x :: xs => ((x.baseName?.map fun n => [.text n]).getD x.pieces) :: innerPieces xs

/-- The pieces of a schema: its constructor and fields. -/
def Schema.pieces : Schema → List Piece
  | .bare .. => ["<contractfn.core.schema.Schema object>"]
  | .primitive _ t => enclosed "Primitive(type_=" t.pieces ")"
  | .any _ => ["AnySchema()"]
  | .refined _ b p m =>
    List.flatten [["Refined(base="], b.pieces, [", predicate="], p.pieces, [", message="], m.pieces,
      [")"]]
  | .tuple _ ss =>
    enclosed "TupleSchema(items=(" (separated (schemaPieces ss)) (tupleEnd ss.length ++ ")")
  | .array _ e n lo hi =>
    List.flatten [["ArraySchema(element="], e.pieces, [", length=", boundPiece n],
      [", min_length=", boundPiece lo], [", max_length=", boundPiece hi, ")"]]
  | .function _ a r =>
    List.flatten [["FunctionSchema(args="], a.pieces, [", returns="], r.pieces, [")"]]
  | .foreign v => v.pieces

/-- The pieces of each schema. -/
def schemaPieces : List Schema → List (List Piece)
  | [] => []
  | s :: ss => s.pieces :: schemaPieces ss

/-- The pieces of the mode of a contract. -/
def ModeChoice.pieces : ModeChoice → List Piece
  | .unset => ["None"]
  | .known m => [m.shown]
  | .foreign v => v.pieces

/-- The pieces of a contract: its fields. -/
def Contract.pieces : Contract → List Piece
  | ⟨_, a, r, m⟩ =>
    List.flatten [["FunctionContract(args_schema="], a.pieces, [", return_schema="], r.pieces,
      [", mode="], m.pieces, [")"]]

/-- The pieces of a function: its name, and the contract of a checked one. -/
def Function.pieces : Function → List Piece
  | .defined _ d =>
    if d.kind = .object then ["<", d.name, " object>"] else ["<function ", d.path, ">"]
  | .applied _ inner _ => enclosed "functools.partial(" inner.pieces ")"
  | .builtin b => ["<built-in function ", b.word, ">"]
  | .predicate n _ _ => ["<predicate ", n, ">"]
  | .checked _ c _ face => List.flatten [["<CheckedFunction "], face.pieces, c.gatePieces, [">"]]
  | .generic _ fields => enclosed "<GenericFn " (factoryPieces fields) ">"
  | .factory _ n named _ _ => [if named then "<function " else "<factory ", n, ">"]

/-- The pieces of the name under which a function reports. -/
def Face.pieces : Face → List Piece
  | ⟨name, _, _⟩ => (name.wordPiece?.map fun p => [p]).getD name.pieces

/-- The pieces of what gates a checked function: a contract, or a value with fields like one. -/
def Value.gatePieces : Value → List Piece
  | .contract ⟨_, a, r, m⟩ =>
    List.flatten [[" mode="], m.wordPieces, [" args="], a.pieces, [" returns="], r.pieces]
  | .function (.checked _ c _ _) => c.gatePieces
  | .record _ fields =>
    List.flatten [[" mode="], modeOf fields, [" args="], fieldOf "args_schema" fields,
      [" returns="], fieldOf "return_schema" fields]
  | _ => []

/-- The pieces of the word for the mode of a contract. -/
def ModeChoice.wordPieces : ModeChoice → List Piece
  | .unset => []
  | .known m => [m.word]
  | .foreign v => v.modePieces

/-- The pieces of the word for a value in place of a mode. -/
def Value.modePieces : Value → List Piece
  | .mode m => [m.word]
  | .boundary b => [b.word]
  | .record _ fields => wordOf fields
  | _ => []

/-- The pieces of the word for the mode among some fields. -/
def modeOf : List (String × Value) → List Piece
  | [] => []
  | (n, v) :: fs => if n == "mode" then v.modePieces else modeOf fs

/-- The pieces of the word among some fields. -/
def wordOf : List (String × Value) → List Piece
  | [] => []
  | (n, v) :: fs =>
    if n == "value" then (v.wordPiece?.map fun p => [p]).getD v.pieces else wordOf fs

/-- The pieces of one of some fields. -/
def fieldOf (name : String) : List (String × Value) → List Piece
  | [] => []
  | (n, v) :: fs => if n == name then v.pieces else fieldOf name fs

/-- The pieces of the factory among the fields of a family: its name, if it has one. -/
def factoryPieces : List (String × Value) → List Piece
  | [] => []
  | (n, v) :: fs =>
    if n == "_factory" then
      match v.ownName? with
      | some name => [(name.wordPiece?.getD (.text ""))]
      | none => v.pieces
    else factoryPieces fs

end

/-- A text from its pieces, if all of them have one. -/
def writePieces? (ps : List Piece) : Option String := (ps.mapM Piece.text?).map String.join

/-- A text from its pieces, with a mark for those that have none. -/
def writePieces (ps : List Piece) : String := String.join (ps.map Piece.mark)

/-- A value written so that its sort can be seen. -/
def Value.shown (v : Value) : String := writePieces v.pieces

/-- A value written so that its sort can be seen, if all its whole numbers can be written. -/
def Value.shown? (v : Value) : Option String := writePieces? v.pieces

/-- A schema written by its constructor and fields. -/
def Schema.shown (s : Schema) : String := writePieces s.pieces

/-- A contract written by its fields. -/
def Contract.shown (c : Contract) : String := writePieces c.pieces

/-- A function written by its name. -/
def Function.shown (f : Function) : String := writePieces f.pieces

@[simp] theorem Value.pieces_text (s : String) : (Value.text s).pieces = [.text (quoted s)] := by
  rw [pieces]

@[simp] theorem Value.shown_text (s : String) : (Value.text s).shown = quoted s := by
  simp [shown, writePieces, Piece.mark, String.join]

@[simp] theorem Value.shown?_text (s : String) : (Value.text s).shown? = some (quoted s) := by
  simp [shown?, writePieces?, Piece.text?, String.join]

/-- The pieces of what a message shows of a value. -/
def Value.printPieces : Value → List Piece
  | .point _ x y _ => List.flatten [["x="], x.pieces, [" y="], y.pieces]
  | .settings _ m s _ => [String.intercalate " " (settingsFields m s)]
  | v => (v.wordPiece?.map fun p => [p]).getD v.pieces

/-- What a message shows of a value. -/
def Value.print (v : Value) : String := writePieces v.printPieces

/-- What a message shows of a value, if all its whole numbers can be written. -/
def Value.print? (v : Value) : Option String := writePieces? v.printPieces

end CallContract
