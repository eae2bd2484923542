/-!
# Blanks

The characters that separate words: those that the standard calls white space, and the four
separators among the controls.
-/

namespace StreamRelay.Text

/-- A character separates words. -/
def isBlank (c : Char) : Bool :=
  let n := c.toNat
  (9 ≤ n && n ≤ 13) || (28 ≤ n && n ≤ 32) || n == 0x85 || n == 0xa0 || n == 0x1680
    || (0x2000 ≤ n && n ≤ 0x200a) || n == 0x2028 || n == 0x2029 || n == 0x202f || n == 0x205f
    || n == 0x3000

def isLineEnd (c : Char) : Bool := c = '\n' || c = '\r'

def isInnerBlank (c : Char) : Bool := isBlank c && !isLineEnd c

def trimEnd (cs : List Char) : List Char := (cs.reverse.dropWhile isBlank).reverse

end StreamRelay.Text
