/-!
# Blank characters

Two classes of blank characters are in use. `isSpace` holds for the characters that Unicode
calls white space; numbers in text may be padded with them. `isBlank` adds the four information
separators U+001C to U+001F; names of modes and switches may be padded with these too.
-/

namespace CallContract

/-- The white space of Unicode. -/
def isSpace (c : Char) : Bool :=
  let n := c.toNat
  (9 ≤ n && n ≤ 13) || n == 32 || n == 0x85 || n == 0xA0 || n == 0x1680 ||
    (0x2000 ≤ n && n ≤ 0x200A) || n == 0x2028 || n == 0x2029 || n == 0x202F ||
    n == 0x205F || n == 0x3000

/-- White space, or one of the four information separators. -/
def isBlank (c : Char) : Bool :=
  isSpace c || (0x1C ≤ c.toNat && c.toNat ≤ 0x1F)

/-- The text without the characters of a class at both ends. -/
def trimBy (p : Char → Bool) (cs : List Char) : List Char :=
  ((cs.dropWhile p).reverse.dropWhile p).reverse

@[simp] theorem trimBy_nil (p : Char → Bool) : trimBy p [] = [] := rfl

end CallContract
