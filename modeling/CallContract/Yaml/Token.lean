import CallContract.Number.Literal
import CallContract.Yaml.Cursor

/-!
# Tokens of a YAML text

The marks and words that a YAML text consists of, with marks for the starts and ends of block
collections, which the text shows by its indentation. Below are the readers of single tokens:
each starts at a cursor and gives the token and the cursor after it.
-/

namespace CallContract.Yaml

/-- A tag as it is written: a handle, which stands for the beginning of the tag, and the rest. -/
structure TagName where
  handle : Option String
  suffix : String
  deriving DecidableEq, Repr, Inhabited

/-- A token. The last one is the end of the text, or the place from which on it cannot be read. -/
inductive Token where
  | streamEnd
  | unreadable (d : Defect)
  | version (major : Nat)
  | tagHandle (handle beginning : String)
  | directive
  | documentStart
  | documentEnd
  | blockSequenceStart
  | blockMappingStart
  | blockEnd
  | flowSequenceStart
  | flowSequenceEnd
  | flowMappingStart
  | flowMappingEnd
  | blockEntry
  | flowEntry
  | key
  | value
  | alias (name : String)
  | anchor (name : String)
  | tag (name : TagName)
  | scalar (plain : Bool) (text : String)
  deriving DecidableEq, Repr, Inhabited

/-- A reader of a part of the text. -/
abbrev Reader (α : Type) := Cursor → Except Defect (α × Cursor)

namespace Token

/-- The name of an alias or anchor, after its mark. -/
def readName : Reader String := fun c =>
  let (name, after) := c.next.span isWordChar
  let x := after.head
  if name.isEmpty || !(isGap x || "?:,]\x7d%@`".toList.contains x) then .error .malformed
  else .ok (String.ofList name, after)

/-- The value of a hexadecimal digit. -/
def hexValue? (c : Char) : Option Nat :=
  if c.isDigit then some (c.toNat - '0'.toNat)
  else if 'a' ≤ c ∧ c ≤ 'f' then some (c.toNat - 'a'.toNat + 10)
  else if 'A' ≤ c ∧ c ≤ 'F' then some (c.toNat - 'A'.toNat + 10)
  else none

/-- The number that hexadecimal digits stand for, if they are ones. -/
def hexNumber? (cs : List Char) : Option Nat :=
  cs.foldlM (fun n c => (hexValue? c).map (16 * n + ·)) 0

/-- The bytes that a row of escapes with percent signs stands for, and the characters after
it. -/
def escapedBytes : List Char → Except Defect (List UInt8 × List Char)
  | '%' :: a :: b :: cs =>
    match hexNumber? [a, b] with
    | some n => do
      let (bs, rest) ← escapedBytes cs
      return (n.toUInt8 :: bs, rest)
    | none => .error .malformed
  | '%' :: _ => .error .malformed
  | cs => .ok ([], cs)

/-- A character of the rest of a tag. -/
def isTagChar (c : Char) : Bool :=
  c.isAlphanum || "-;/?:@&=+$,_.!~*'()[]%".toList.contains c

/-- The text of a tag with escapes resolved. -/
def unescapeTag : Nat → List Char → Except Defect (List Char)
  | 0, _ => .ok []
  | _, [] => .ok []
  | fuel + 1, c :: cs =>
    if c = '%' then do
      let (bs, rest) ← escapedBytes (c :: cs)
      match String.fromUTF8? ⟨bs.toArray⟩ with
      | some s =>
        let more ← unescapeTag fuel rest
        return s.toList ++ more
      | none => .error .malformed
    else (unescapeTag fuel cs).map (c :: ·)

/-- The rest of a tag. -/
def readTagRest : Reader String := fun c => do
  let (cs, after) := c.span isTagChar
  if cs.isEmpty then .error .malformed
  else
    let text ← unescapeTag cs.length cs
    return (String.ofList text, after)

/-- A handle: a single exclamation mark, or a word between two. -/
def readHandle : Reader String := fun c =>
  if c.head != '!' then .error .malformed
  else
    let (word, after) := c.next.span isWordChar
    if after.head == '!' && c.peek 1 != ' ' then
      .ok (String.ofList ('!' :: word ++ ['!']), after.next)
    else if c.peek 1 == ' ' then .ok ("!", c.next)
    else .error .malformed

/-- Whether a tag goes on with a handle: another exclamation mark follows before the next gap. -/
def hasHandle (c : Cursor) : Bool :=
  (c.next.rest.takeWhile fun x => !(isBreak x || x == ' ')).contains '!'

/-- A tag. -/
def readTag : Reader Token := fun c => do
  let (name, after) ←
    if c.peek 1 == '<' then do
      let (suffix, after) ← readTagRest (c.advance 2)
      if after.head != '>' then throw .malformed
      pure (TagName.mk none suffix, after.next)
    else if isGap (c.peek 1) then pure (TagName.mk none "!", c.next)
    else if hasHandle c then do
      let (handle, after) ← readHandle c
      let (suffix, after) ← readTagRest after
      pure (TagName.mk (some handle) suffix, after)
    else do
      let (suffix, after) ← readTagRest c.next
      pure (TagName.mk (some "!") suffix, after)
  if isBreakOrEnd after.head || after.head == ' ' then return (.tag name, after)
  else throw .malformed

/-- The rest of a line that may hold nothing more than a comment. -/
def readLineEnd (c : Cursor) : Except Defect Cursor :=
  let after := c.skipSpaces.skipComment
  if isBreakOrEnd after.head then .ok after.lineBreak.2 else .error .malformed

/-- A row of digits as a number. -/
def readNumber : Reader Nat := fun c =>
  let (ds, after) := c.span Char.isDigit
  if ds.isEmpty then .error .malformed
  else match Literal.whole 10 ds with
    | .ok n => .ok (n.toNat, after)
    | .error d => .error (.badValue (d.message 10 (String.ofList ds)))

/-- A directive: the version of the language, or a handle for tags; others say nothing. -/
def readDirective : Reader Token := fun c => do
  let (name, after) := c.next.span isWordChar
  if name.isEmpty || !(isBreakOrEnd after.head || after.head == ' ') then throw .malformed
  let ends (c : Cursor) : Bool := isBreakOrEnd c.head || c.head == ' '
  let (token, after) ←
    if name == "YAML".toList then do
      let (major, after) ← readNumber after.skipSpaces
      if after.head != '.' then throw .malformed
      let (_, after) ← readNumber after.next
      if !ends after then throw .malformed
      pure (Token.version major, after)
    else if name == "TAG".toList then do
      let (handle, after) ← readHandle after.skipSpaces
      if after.head != ' ' then throw .malformed
      let (beginning, after) ← readTagRest after.skipSpaces
      if !ends after then throw .malformed
      pure (Token.tagHandle handle beginning, after)
    else pure (Token.directive, after.skip fun x => !isBreak x)
  let after ← readLineEnd after
  return (token, after)

/-! ### Quoted scalars -/

/-- What the letter after a backslash stands for. -/
def escapes : List (Char × Char) :=
  [('0', '\x00'), ('a', '\x07'), ('b', '\x08'), ('t', '\t'), ('\t', '\t'), ('n', '\n'),
    ('v', '\x0b'), ('f', '\x0c'), ('r', '\r'), ('e', '\x1b'), (' ', ' '), ('"', '"'),
    ('\\', '\\'), ('/', '/'), ('N', '\u0085'), ('_', '\u00a0'), ('L', '\u2028'),
    ('P', '\u2029')]

/-- How many hexadecimal digits follow the letter after a backslash. -/
def escapeDigits : List (Char × Nat) := [('x', 2), ('u', 4), ('U', 8)]

/-- The line breaks inside a quoted scalar, with the blanks around them left out. A line that
separates documents may not come before the closing quote. -/
def quotedBreaks : Nat → Reader (List Char)
  | 0, c => .ok ([], c)
  | fuel + 1, c =>
    if c.atSeparator then .error .malformed
    else
      let c := c.skip fun x => x == ' ' || x == '\t'
      if isBreak c.head then do
        let (b, c) := c.lineBreak
        let (bs, c) ← quotedBreaks fuel c
        return (b ++ bs, c)
      else .ok ([], c)

/-- The blanks inside a quoted scalar. A single line break counts as a space; of more, the first
does not count. -/
def quotedBlanks : Reader (List Char) := fun c =>
  let (blanks, after) := c.span fun x => x == ' ' || x == '\t'
  if after.head == ending then .error .malformed
  else if isBreak after.head then do
    let (b, after) := after.lineBreak
    let (bs, after) ← quotedBreaks after.left after
    if b != ['\n'] then return (b ++ bs, after)
    else if bs.isEmpty then return ([' '], after)
    else return (bs, after)
  else .ok (blanks, after)

/-- The character of an escape in a text between double quotes, after the backslash. -/
def readEscape : Reader (List Char) := fun c =>
  let x := c.head
  match escapes.lookup x, escapeDigits.lookup x with
  | some y, _ => .ok ([y], c.next)
  | none, some n =>
    match hexNumber? (c.next.rest.take n) with
    | some code =>
      if c.next.left < n then .error .malformed
      else if 0x80000000 ≤ code then .error .tooLarge
      else if 0x110000 ≤ code then .error (.badValue "chr() arg not in range(0x110000)")
      else .ok ([Char.ofNat code], c.next.advance n)
    | none => .error .malformed
  | none, none =>
    if isBreak x then quotedBreaks c.left c.lineBreak.2 else .error .malformed

/-- The text of a quoted scalar up to its closing quote. -/
def quotedText (double : Bool) : Nat → Reader (List Char)
  | 0, _ => .error .malformed
  | fuel + 1, c =>
    let more (cs : List Char) (c : Cursor) : Except Defect (List Char × Cursor) := do
      let (rest, c) ← quotedText double fuel c
      return (cs ++ rest, c)
    let x := c.head
    if x == (if double then '"' else '\'') then
      if !double && c.peek 1 == '\'' then more ['\''] (c.advance 2) else .ok ([], c.next)
    else if double && x == '\\' then do
      let (cs, c) ← readEscape c.next
      more cs c
    else if isGap x then do
      let (cs, c) ← quotedBlanks c
      more cs c
    else more [x] c.next

/-- A quoted scalar. -/
def readQuoted (double : Bool) : Reader Token := fun c => do
  let (cs, after) ← quotedText double (c.left + 1) c.next
  return (.scalar false (String.ofList cs), after)

/-! ### Block scalars -/

/-- What becomes of the line breaks at the end of a block scalar. -/
inductive Chomping where
  | strip
  | clip
  | keep
  deriving DecidableEq, Repr, Inhabited

/-- The mark for the end of a block scalar. -/
def chomping? (c : Char) : Option Chomping :=
  if c == '+' then some .keep else if c == '-' then some .strip else none

/-- The digit for the indentation of a block scalar; it is not zero. -/
def indentDigit? (c : Char) : Except Defect (Option Nat) :=
  if c.isDigit then
    if c == '0' then .error .malformed else .ok (some (c.toNat - '0'.toNat))
  else .ok none

/-- The heading of a block scalar, after its mark. -/
def readBlockHeading : Reader (Chomping × Option Nat) := fun c => do
  let (chomp, step, after) ←
    match chomping? c.head with
    | some chomp => do
      match ← indentDigit? (c.peek 1) with
      | some n => pure (chomp, some n, c.advance 2)
      | none => pure (chomp, none, c.next)
    | none => do
      match ← indentDigit? c.head with
      | some n =>
        match chomping? (c.peek 1) with
        | some chomp => pure (chomp, some n, c.advance 2)
        | none => pure (Chomping.clip, some n, c.next)
      | none => pure (Chomping.clip, none, c)
  if !(isBreakOrEnd after.head || after.head == ' ') then throw .malformed
  let after ← readLineEnd after
  return ((chomp, step), after)

/-- The blank lines at the start of a block scalar, and the greatest indentation of its first
lines. -/
def leadingLines : Nat → Cursor → List Char × Nat × Cursor
  | 0, c => ([], 0, c)
  | fuel + 1, c =>
    if c.head == ' ' then
      let (bs, widest, after) := leadingLines fuel c.next
      (bs, max widest c.next.column, after)
    else if isBreak c.head then
      let (b, c) := c.lineBreak
      let (bs, widest, after) := leadingLines fuel c
      (b ++ bs, widest, after)
    else ([], 0, c)

/-- The cursor after spaces, up to a column. -/
def indentTo (column : Nat) : Nat → Cursor → Cursor
  | 0, c => c
  | fuel + 1, c =>
    if c.column < column && c.head == ' ' then indentTo column fuel c.next else c

/-- The blank lines between the lines of a block scalar, and the cursor after the indentation of
the next line. -/
def blankLines (indent : Nat) : Nat → Cursor → List Char × Cursor
  | 0, c => ([], c)
  | fuel + 1, c =>
    let c := indentTo indent indent c
    if isBreak c.head then
      let (b, c) := c.lineBreak
      let (bs, c) := blankLines indent fuel c
      (b ++ bs, c)
    else ([], c)

/-- The lines of a block scalar, after its blank lines `breaks`. In a folded scalar a line break
between two lines that do not begin with a blank counts as a space. -/
def blockLines (folded : Bool) (chomp : Chomping) (indent : Nat) :
    Nat → List Char → Cursor → List Char × Cursor
  | 0, _, c => ([], c)
  | fuel + 1, breaks, c =>
    let isBlank (x : Char) := x == ' ' || x == '\t'
    let (text, c') := c.span fun x => !isBreak x
    let (b, c') := c'.lineBreak
    let (bs, c') := blankLines indent (c'.left + 1) c'
    if c'.column == indent && c'.head != ending then
      let join :=
        if folded && b == ['\n'] && !isBlank c.head && !isBlank c'.head then
          if bs.isEmpty then [' '] else []
        else b
      let (rest, after) := blockLines folded chomp indent fuel bs c'
      (breaks ++ text ++ join ++ rest, after)
    else
      let tail := match chomp with
        | .strip => []
        | .clip => b
        | .keep => b ++ bs
      (breaks ++ text ++ tail, c')

/-- A block scalar. Its lines are indented deeper than `column` columns. -/
def readBlock (folded : Bool) (column : Int) : Reader Token := fun c => do
  let ((chomp, step), c) ← readBlockHeading c.next
  let least := (max (column + 1) 1).toNat
  let (indent, breaks, c) := match step with
    | none =>
      let (bs, widest, c) := leadingLines (c.left + 1) c
      (max least widest, bs, c)
    | some n =>
      let indent := least + n - 1
      let (bs, c) := blankLines indent (c.left + 1) c
      (indent, bs, c)
  if c.column == indent && c.head != ending then
    let (cs, after) := blockLines folded chomp indent (c.left + 1) breaks c
    return (.scalar false (String.ofList cs), after)
  else return (.scalar false (String.ofList (if chomp == .keep then breaks else [])), c)

/-! ### Plain scalars -/

/-- Whether a plain scalar goes on with the character at the cursor. -/
def plainGoesOn (inFlow : Bool) (c : Cursor) : Bool :=
  let x := c.head
  let y := c.peek 1
  !(isGap x || (x == ':' && (isGap y || (inFlow && ",[]\x7b\x7d".toList.contains y))) ||
    (inFlow && ",?[]\x7b\x7d".toList.contains x))

/-- The characters of a plain scalar up to the next gap. -/
def plainWord (inFlow : Bool) : Nat → Cursor → List Char × Cursor
  | 0, c => ([], c)
  | fuel + 1, c =>
    if plainGoesOn inFlow c then
      let (cs, after) := plainWord inFlow fuel c.next
      (c.head :: cs, after)
    else ([], c)

/-- Blank lines after a line of a plain scalar; nothing if a line that separates documents comes
first. -/
def plainBreaks : Nat → Cursor → Option (List Char) × Cursor
  | 0, c => (some [], c)
  | fuel + 1, c =>
    if c.head == ' ' then plainBreaks fuel c.next
    else if isBreak c.head then
      let (b, c) := c.lineBreak
      if c.atSeparator then (none, c)
      else
        let (bs, after) := plainBreaks fuel c
        (bs.map (b ++ ·), after)
    else (some [], c)

/-- The gap after a word of a plain scalar: how it counts if the scalar goes on, and whether it
holds a line break. -/
def plainGap (c : Cursor) : Option (List Char) × Bool × Cursor :=
  let (blanks, c) := c.span (· == ' ')
  if isBreak c.head then
    let (b, c) := c.lineBreak
    if c.atSeparator then (none, true, c)
    else
      match plainBreaks (c.left + 1) c with
      | (none, c) => (none, true, c)
      | (some bs, c) =>
        let gap := if b != ['\n'] then b ++ bs else if bs.isEmpty then [' '] else bs
        (some gap, true, c)
  else (if blanks.isEmpty then none else some blanks, false, c)

/-- The rest of a plain scalar: further words, with the gaps before them. The flag says whether
the last gap that was read holds a line break. -/
def plainRest (inFlow : Bool) (indent : Int) : Nat → Bool → List Char → Cursor →
    List Char × Bool × Cursor
  | 0, broken, _, c => ([], broken, c)
  | fuel + 1, broken, gap, c =>
    if c.head == '#' then ([], broken, c)
    else
      let (word, c) := plainWord inFlow (c.left + 1) c
      if word.isEmpty then ([], broken, c)
      else
        let (next, nextBroken, c) := plainGap c
        match next with
        | none => (gap ++ word, nextBroken, c)
        | some next =>
          if c.head == '#' || (!inFlow && c.column < indent) then (gap ++ word, nextBroken, c)
          else
            let (more, broken, c) := plainRest inFlow indent fuel nextBroken next c
            (gap ++ word ++ more, broken, c)

/-- A plain scalar, whose lines after the first are indented by at least `indent` columns, and
whether a line break was read after its last word. -/
def readPlain (inFlow : Bool) (indent : Int) (c : Cursor) : Token × Bool × Cursor :=
  let (cs, broken, after) := plainRest inFlow indent (c.left + 1) false [] c
  (.scalar true (String.ofList cs), broken, after)

end Token

end CallContract.Yaml
