/-!
# White space

The characters that Unicode counts as white space, together with the four information
separators. The list is short, so membership is decided by comparison.
-/

namespace SecretScan.Text

/-- White space of any script. -/
def isBlank (c : Char) : Bool :=
  let n := c.toNat
  (9 ≤ n && n ≤ 13) || (28 ≤ n && n ≤ 32) || n == 0x85 || n == 0xA0 || n == 0x1680 ||
    (0x2000 ≤ n && n ≤ 0x200A) || n == 0x2028 || n == 0x2029 || n == 0x202F || n == 0x205F ||
    n == 0x3000

/-- The six blanks of ASCII. -/
def isAsciiBlank (c : Char) : Bool :=
  c == ' ' || (9 ≤ c.toNat && c.toNat ≤ 13)

/-- What remains of a text without the blanks at its end. -/
def trimEndBlanks (cs : List Char) : List Char :=
  (cs.reverse.dropWhile isBlank).reverse

end SecretScan.Text
