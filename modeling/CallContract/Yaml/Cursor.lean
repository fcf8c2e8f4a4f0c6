/-!
# Reading YAML text

A cursor is a place in a text: what is left of it, and the index, line and column. The classes of
characters that matter to YAML are below it. Past the end of the text the cursor sees the
character `ending`, which no YAML text may hold.
-/

namespace CallContract.Yaml

/-- Why a text is not the value of a YAML document. Nearly always it is malformed; a few scalars
look well but stand for no value, and collections may be nested too deeply. -/
inductive Defect where
  | malformed
  | badValue (text : String)
  | noWord (shown : String)
  | noDigits
  | noDate
  | notText
  | tooLarge
  | tooDeep
  deriving DecidableEq, Repr, Inhabited

/-- The character that stands for the end of the text. -/
def ending : Char := '\x00'

/-- A line break. -/
def isBreak (c : Char) : Bool :=
  c == '\n' || c == '\r' || c == '\u0085' || c == '\u2028' || c == '\u2029'

/-- A line break or the end of the text. -/
def isBreakOrEnd (c : Char) : Bool := isBreak c || c == ending

/-- A character that ends a word: a blank, a line break or the end of the text. -/
def isGap (c : Char) : Bool := isBreakOrEnd c || c == ' ' || c == '\t'

/-- A character of an anchor, a directive or the name of a tag. -/
def isWordChar (c : Char) : Bool := c.isAlphanum || c == '-' || c == '_'

/-- A character that a YAML text may hold. -/
def isAllowed (c : Char) : Bool :=
  let n := c.toNat
  n == 9 || n == 10 || n == 13 || (0x20 ≤ n && n ≤ 0x7E) || n == 0x85 ||
    (0xA0 ≤ n && n ≤ 0xD7FF) || (0xE000 ≤ n && n ≤ 0xFFFD) || 0x10000 ≤ n

/-- A place in a text, with how many characters are left. -/
structure Cursor where
  rest : List Char
  left : Nat
  index : Nat
  line : Nat
  column : Nat
  deriving Repr, Inhabited

namespace Cursor

/-- The start of a text. -/
def start (cs : List Char) : Cursor := ⟨cs, cs.length, 0, 0, 0⟩

/-- The character `k` places further on. -/
def peek (c : Cursor) (k : Nat) : Char := c.rest.getD k ending

/-- The character at the cursor. -/
def head (c : Cursor) : Char := c.peek 0

/-- The cursor one character further on. -/
def next (c : Cursor) : Cursor :=
  match c.rest with
  | [] => c
  | x :: xs =>
    if isBreak x && !(x == '\r' && xs.head? == some '\n') then
      ⟨xs, c.left - 1, c.index + 1, c.line + 1, 0⟩
    else if x == '\uFEFF' then ⟨xs, c.left - 1, c.index + 1, c.line, c.column⟩
    else ⟨xs, c.left - 1, c.index + 1, c.line, c.column + 1⟩

/-- The cursor some characters further on. -/
def advance (c : Cursor) : Nat → Cursor
  | 0 => c
  | n + 1 => c.next.advance n

/-- The characters of a class at the cursor, and the cursor after them. -/
def span (c : Cursor) (p : Char → Bool) : List Char × Cursor :=
  let cs := c.rest.takeWhile p
  (cs, c.advance cs.length)

/-- The cursor after the characters of a class. -/
def skip (c : Cursor) (p : Char → Bool) : Cursor := (c.span p).2

/-- The cursor after spaces. -/
def skipSpaces (c : Cursor) : Cursor := c.skip (· == ' ')

/-- The cursor after a comment, if there is one. -/
def skipComment (c : Cursor) : Cursor :=
  if c.head == '#' then c.skip (fun x => !isBreak x) else c

/-- The line break at the cursor, if there is one, as it counts in a text, and the cursor
after it. -/
def lineBreak (c : Cursor) : List Char × Cursor :=
  let x := c.head
  if x == '\r' && c.peek 1 == '\n' then (['\n'], c.advance 2)
  else if x == '\r' || x == '\n' || x == '\u0085' then (['\n'], c.next)
  else if x == '\u2028' || x == '\u2029' then ([x], c.next)
  else ([], c)

/-- Whether a line that separates documents begins here, if it is the start of a line. -/
def atSeparator (c : Cursor) : Bool :=
  let mark := c.rest.take 3
  (mark == ['-', '-', '-'] || mark == ['.', '.', '.']) && isGap (c.peek 3)

end Cursor

end CallContract.Yaml
