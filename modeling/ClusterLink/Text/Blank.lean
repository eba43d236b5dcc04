/-
# Blanks

Two classes of blank characters. `isWhiteSpace` is the Unicode property
White_Space, which surrounds numbers in settings. `isBlank` adds the four
information separators U+001C to U+001F; it is the class that addresses may
be surrounded with, and may not contain.

Key definitions: `isWhiteSpace`, `isBlank`, `trim`.
-/
namespace ClusterLink.Text

/-- The Unicode property White_Space. -/
def isWhiteSpace (c : Char) : Bool :=
  let n := c.toNat
  (0x09 ≤ n && n ≤ 0x0d) || n == 0x20 || n == 0x85 || n == 0xa0 || n == 0x1680 ||
  (0x2000 ≤ n && n ≤ 0x200a) || n == 0x2028 || n == 0x2029 || n == 0x202f || n == 0x205f ||
  n == 0x3000

/-- White space and the information separators. -/
def isBlank (c : Char) : Bool := isWhiteSpace c || (0x1c ≤ c.toNat && c.toNat ≤ 0x1f)

/-- The text without the characters of class `p` at its two ends. -/
def trim (p : Char → Bool) (cs : List Char) : List Char :=
  ((cs.dropWhile p).reverse.dropWhile p).reverse

end ClusterLink.Text
