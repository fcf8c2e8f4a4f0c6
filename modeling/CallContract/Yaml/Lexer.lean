import CallContract.Yaml.Token

/-!
# From text to tokens

A key of a mapping is not marked where it begins: only the colon after it shows that it was one.
So the lexer remembers, for each level of flow collections, the last token that may be such a
simple key, and puts a key mark before it when the colon comes. It also compares the column of
each token with the indentation of the collections around it, which begin and end by it.

Where the text cannot be read, the tokens end with the defect. It counts only for a reader of the
tokens who comes that far; a token that may be a key cannot be passed before it is known whether it
is one.
-/

namespace CallContract.Yaml

/-- A token that may turn out to be a key. -/
structure SimpleKey where
  /-- How many tokens come before it. -/
  position : Nat
  /-- Whether it has to be a key, since it stands where a key of the collection around it does. -/
  required : Bool
  index : Nat
  line : Nat
  column : Nat
  deriving Repr, Inhabited

/-- The state of the lexer. -/
structure Lexer where
  cursor : Cursor
  tokens : Array Token
  /-- How many flow collections are open. -/
  flowLevel : Nat
  /-- The indentation of the innermost block collection, and those of the others. -/
  indent : Int
  indents : List Int
  /-- Whether a simple key may begin here. -/
  keyAllowed : Bool
  /-- The simple keys that are still possible, by their flow level. -/
  keys : List (Nat × SimpleKey)
  deriving Inhabited

namespace Lexer

/-- The state before the first token. -/
def start (cs : List Char) : Lexer := ⟨.start cs, #[], 0, -1, [], true, []⟩

/-- Whether a flow collection is open. -/
def inFlow (l : Lexer) : Bool := l.flowLevel != 0

/-- The state with a token added. -/
def push (l : Lexer) (t : Token) : Lexer := { l with tokens := l.tokens.push t }

/-- The state with a token put in at a position. -/
def pushAt (l : Lexer) (position : Nat) (t : Token) : Lexer :=
  { l with tokens := l.tokens.insertIdxIfInBounds position t }

/-- Skip blanks, comments and line breaks. After a line break in a block a simple key may
begin. -/
def skipGap : Nat → Lexer → Lexer
  | 0, l => l
  | fuel + 1, l =>
    let c := l.cursor.skipSpaces.skipComment
    let (b, c') := c.lineBreak
    if b.isEmpty then { l with cursor := c }
    else skipGap fuel { l with cursor := c', keyAllowed := l.keyAllowed || !l.inFlow }

/-- Skip a mark of the byte order at the start of the text. -/
def skipOrderMark (l : Lexer) : Lexer :=
  if l.cursor.index == 0 && l.cursor.head == '\uFEFF' then { l with cursor := l.cursor.next }
  else l

/-- Whether a key would end on another line or too far back. -/
def isStale (l : Lexer) (k : SimpleKey) : Bool :=
  k.line != l.cursor.line || k.index + 1024 < l.cursor.index

/-- Forget the simple keys that end on another line or too far back. -/
def dropStaleKeys (l : Lexer) : Except Defect Lexer :=
  if l.keys.any fun (_, k) => l.isStale k && k.required then .error .malformed
  else .ok { l with keys := l.keys.filter fun (_, k) => !l.isStale k }

/-- Forget the simple key of the current flow level. -/
def dropKey (l : Lexer) : Except Defect Lexer :=
  match l.keys.lookup l.flowLevel with
  | some k =>
    if k.required then .error .malformed
    else .ok { l with keys := l.keys.filter (·.1 != l.flowLevel) }
  | none => .ok l

/-- Remember that the next token may be a simple key. -/
def saveKey (l : Lexer) : Except Defect Lexer := do
  if !l.keyAllowed then return l
  let required := !l.inFlow && l.indent == l.cursor.column
  let c := l.cursor
  let l ← l.dropKey
  let key : SimpleKey := ⟨l.tokens.size, required, c.index, c.line, c.column⟩
  return { l with keys := (l.flowLevel, key) :: l.keys }

/-- End the block collections that are indented deeper than a column. -/
def unwind (column : Int) : List Int → Lexer → Lexer
  | [], l => l
  | i :: outer, l =>
    if column < l.indent then
      unwind column outer { l.push .blockEnd with indent := i, indents := outer }
    else l

/-- End the block collections that are indented deeper than a column, outside flow
collections. -/
def unwindTo (l : Lexer) (column : Int) : Lexer :=
  if l.inFlow then l else unwind column l.indents l

/-- Begin a block collection if a column is deeper than the current indentation; its mark goes to
`position`. -/
def indentTo (l : Lexer) (column position : Nat) (mark : Token) : Lexer :=
  if l.indent < column then
    { l.pushAt position mark with indent := column, indents := l.indent :: l.indents }
  else l

/-- Add a token of `width` characters. -/
def take (l : Lexer) (width : Nat) (t : Token) : Lexer :=
  { l.push t with cursor := l.cursor.advance width }

/-- Add the token that a reader finds. -/
def takeWith (l : Lexer) (r : Reader Token) : Except Defect Lexer := do
  let (t, c) ← r l.cursor
  return { l.push t with cursor := c }

/-- Add a token that may be a simple key and after which none may begin. -/
def takeKeyLike (l : Lexer) (r : Reader Token) : Except Defect Lexer := do
  let l ← l.saveKey
  { l with keyAllowed := false }.takeWith r

/-- A token at the start of a line that ends all block collections. -/
def takeOuter (l : Lexer) (take : Lexer → Except Defect Lexer) : Except Defect Lexer := do
  let l ← (l.unwindTo (-1)).dropKey
  take { l with keyAllowed := false }

/-- Begin a flow collection. -/
def openFlow (l : Lexer) (t : Token) : Except Defect Lexer := do
  let l ← l.saveKey
  return { l with flowLevel := l.flowLevel + 1, keyAllowed := true }.take 1 t

/-- End a flow collection. -/
def closeFlow (l : Lexer) (t : Token) : Except Defect Lexer := do
  let l ← l.dropKey
  return { l with flowLevel := l.flowLevel - 1, keyAllowed := false }.take 1 t

/-- The comma of a flow collection. -/
def flowEntry (l : Lexer) : Except Defect Lexer := do
  let l ← { l with keyAllowed := true }.dropKey
  return l.take 1 .flowEntry

/-- The dash of a block sequence. -/
def blockEntry (l : Lexer) : Except Defect Lexer := do
  if !l.inFlow && !l.keyAllowed then throw .malformed
  let l := if l.inFlow then l
    else l.indentTo l.cursor.column l.tokens.size .blockSequenceStart
  let l ← { l with keyAllowed := true }.dropKey
  return l.take 1 .blockEntry

/-- The question mark of a key. -/
def explicitKey (l : Lexer) : Except Defect Lexer := do
  if !l.inFlow && !l.keyAllowed then throw .malformed
  let l := if l.inFlow then l
    else l.indentTo l.cursor.column l.tokens.size .blockMappingStart
  let l ← { l with keyAllowed := !l.inFlow }.dropKey
  return l.take 1 .key

/-- The colon before a value. If a simple key is possible, it is one. -/
def value (l : Lexer) : Except Defect Lexer := do
  match l.keys.lookup l.flowLevel with
  | some k =>
    let l := { l with keys := l.keys.filter (·.1 != l.flowLevel) }
    let l := l.pushAt k.position .key
    let l := if l.inFlow then l else l.indentTo k.column k.position .blockMappingStart
    return { l with keyAllowed := false }.take 1 .value
  | none =>
    if !l.inFlow && !l.keyAllowed then throw .malformed
    let l := if l.inFlow then l
      else l.indentTo l.cursor.column l.tokens.size .blockMappingStart
    let l ← { l with keyAllowed := !l.inFlow }.dropKey
    return l.take 1 .value

/-- A block scalar. -/
def blockScalar (l : Lexer) (folded : Bool) : Except Defect Lexer := do
  let l ← { l with keyAllowed := true }.dropKey
  l.takeWith (Token.readBlock folded l.indent)

/-- A plain scalar. If a line break was read after it, a simple key may begin there. -/
def plainScalar (l : Lexer) : Except Defect Lexer := do
  let l ← l.saveKey
  let (t, broken, c) := Token.readPlain l.inFlow (l.indent + 1) l.cursor
  return { l.push t with cursor := c, keyAllowed := broken }

/-- Whether a plain scalar can begin at the cursor. -/
def plainBegins (l : Lexer) : Bool :=
  let x := l.cursor.head
  let y := l.cursor.peek 1
  !(isGap x || "-?:,[]\x7b\x7d#&*!|>'\"%@`".toList.contains x) ||
    (!isGap y && (x == '-' || (!l.inFlow && (x == '?' || x == ':'))))

/-- The end of the text. -/
def finish (l : Lexer) : Except Defect Lexer := do
  let l ← (l.unwindTo (-1)).dropKey
  return l.push .streamEnd

/-- A line that separates documents begins here with three times the character `x`. -/
def separates (l : Lexer) (x : Char) : Bool :=
  l.cursor.column == 0 && l.cursor.head == x && l.cursor.atSeparator

/-- Read the token at the cursor, at which no gap begins. -/
def readToken (l : Lexer) : Except Defect Lexer :=
  let x := l.cursor.head
  let gapNext := isGap (l.cursor.peek 1)
  if x == '%' && l.cursor.column == 0 then l.takeOuter (·.takeWith Token.readDirective)
  else if l.separates '-' then l.takeOuter fun l => .ok (l.take 3 .documentStart)
  else if l.separates '.' then l.takeOuter fun l => .ok (l.take 3 .documentEnd)
  else if x == '[' then l.openFlow .flowSequenceStart
  else if x == '{' then l.openFlow .flowMappingStart
  else if x == ']' then l.closeFlow .flowSequenceEnd
  else if x == '}' then l.closeFlow .flowMappingEnd
  else if x == ',' then l.flowEntry
  else if x == '-' && gapNext then l.blockEntry
  else if x == '?' && (l.inFlow || gapNext) then l.explicitKey
  else if x == ':' && (l.inFlow || gapNext) then l.value
  else if x == '*' then
    l.takeKeyLike fun c => (Token.readName c).map fun (n, c) => (.alias n, c)
  else if x == '&' then
    l.takeKeyLike fun c => (Token.readName c).map fun (n, c) => (.anchor n, c)
  else if x == '!' then l.takeKeyLike Token.readTag
  else if x == '|' && !l.inFlow then l.blockScalar false
  else if x == '>' && !l.inFlow then l.blockScalar true
  else if x == '\'' then l.takeKeyLike (Token.readQuoted false)
  else if x == '"' then l.takeKeyLike (Token.readQuoted true)
  else if l.plainBegins then l.plainScalar
  else .error .malformed

/-- The tokens up to the first that may still be a key, and the defect that ends them. -/
def brokenBy (l : Lexer) (d : Defect) : List Token :=
  let keys := l.keys.filter fun (_, k) => !l.isStale k
  let known := keys.foldl (fun n (_, k) => min n k.position) l.tokens.size
  l.tokens.toList.take known ++ [.unreadable d]

/-- Read the next token; nothing if the text has come to its end. -/
def step (l : Lexer) : Except Defect (Lexer × Bool) := do
  let l := l.skipOrderMark
  let l ← (skipGap (l.cursor.left + 1) l).dropStaleKeys
  let l := l.unwindTo l.cursor.column
  if l.cursor.rest.isEmpty then return (← l.finish, true)
  else return (← l.readToken, false)

/-- Read all tokens. The measure bounds their number. -/
def run : Nat → Lexer → List Token
  | 0, l => l.brokenBy .malformed
  | fuel + 1, l =>
    match l.step with
    | .error d => l.brokenBy d
    | .ok (l, true) => l.tokens.toList
    | .ok (l, false) => run fuel l

end Lexer

/-- The tokens of a text. -/
def tokens (cs : List Char) : List Token :=
  if cs.all isAllowed then Lexer.run (cs.length + 2) (Lexer.start cs) else [.unreadable .malformed]

end CallContract.Yaml
