import CallContract.Text.Printable

/-!
# Quoted text

Text inside a message stands between single quotes, or between double quotes if it holds a
single quote and no double one. The quote in use and the backslash are written after a
backslash, line feed, carriage return and tab as `\n`, `\r` and `\t`, and every other
character that is not printable by its number, in two, four or eight hexadecimal digits.
-/

namespace CallContract

/-- The digits of a number in base 16, at least `width` of them. -/
def hexDigits (width n : Nat) : List Char :=
  let ds := Nat.toDigits 16 n
  List.replicate (width - ds.length) '0' ++ ds

/-- The quote to put around a text. -/
def quoteFor (hasSingle hasDouble : Bool) : Char :=
  if hasSingle && !hasDouble then '"' else '\''

/-- A character as it stands inside quotes `q`. -/
def escapeChar (q c : Char) : List Char :=
  let n := c.toNat
  if c = q ∨ c = '\\' then ['\\', c]
  else if c = '\n' then ['\\', 'n']
  else if c = '\r' then ['\\', 'r']
  else if c = '\t' then ['\\', 't']
  else if isPrintable c then [c]
  else if n < 0x100 then '\\' :: 'x' :: hexDigits 2 n
  else if n < 0x10000 then '\\' :: 'u' :: hexDigits 4 n
  else '\\' :: 'U' :: hexDigits 8 n

/-- The text between quotes. -/
def quoted (s : String) : String :=
  let cs := s.toList
  let q := quoteFor (cs.contains '\'') (cs.contains '"')
  String.ofList (q :: cs.flatMap (escapeChar q) ++ [q])

/-- The text between quotes, with all characters beyond ASCII escaped as well. -/
def quotedAscii (s : String) : String :=
  let escape (c : Char) : List Char :=
    let n := c.toNat
    if n < 0x80 then [c]
    else if n < 0x100 then '\\' :: 'x' :: hexDigits 2 n
    else if n < 0x10000 then '\\' :: 'u' :: hexDigits 4 n
    else '\\' :: 'U' :: hexDigits 8 n
  String.ofList ((quoted s).toList.flatMap escape)

/-- A byte as it stands inside quotes `q`: printable ASCII characters as they are, all others
escaped. -/
def escapeByte (q : Char) (b : UInt8) : List Char :=
  let n := b.toNat
  let c := Char.ofNat n
  if c = q ∨ c = '\\' then ['\\', c]
  else if c = '\n' then ['\\', 'n']
  else if c = '\r' then ['\\', 'r']
  else if c = '\t' then ['\\', 't']
  else if 0x20 ≤ n ∧ n < 0x7F then [c]
  else '\\' :: 'x' :: hexDigits 2 n

/-- Bytes between quotes, after the letter that marks them. -/
def quotedBytes (bs : List UInt8) : String :=
  let q := quoteFor (bs.contains 39) (bs.contains 34)
  String.ofList ('b' :: q :: bs.flatMap (escapeByte q) ++ [q])

example : quoted "it's" = "\"it's\"" := by decide +kernel
example : quoted "a\"'\n" = "'a\"\\'\\n'" := by decide +kernel

end CallContract
