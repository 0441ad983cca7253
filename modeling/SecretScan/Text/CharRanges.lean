/-!
# Sets of code points given as ranges

A property of code points is a table of ranges, written the way the Unicode data files write
them: hexadecimal ranges in ascending order, separated by blanks (`"30-39 41-5A AA"`).
`CharRanges.ofText` reads such a table and `CharRanges.contains` looks a code point up by
bisection.
-/

namespace SecretScan.Text

/-- A set of code points. `bounds` lists, in ascending order, the code points at which membership
changes: the set starts at the first, stops before the second, starts again at the third. -/
structure CharRanges where
  bounds : Array Nat
  deriving Inhabited

namespace CharRanges

/-- Is this one of the sixteen hexadecimal digits? -/
def isHexDigit (c : Char) : Bool :=
  c.isDigit || ('a' ≤ c && c ≤ 'f') || ('A' ≤ c && c ≤ 'F')

/-- The value of a hexadecimal digit; any other character counts as zero. -/
def hexValue (c : Char) : Nat :=
  if c.isDigit then c.toNat - 48
  else if 'a' ≤ c ∧ c ≤ 'f' then c.toNat - 87
  else if 'A' ≤ c ∧ c ≤ 'F' then c.toNat - 55
  else 0

/-- A hexadecimal numeral. -/
def hexNumber (cs : List Char) : Nat :=
  cs.foldl (fun n c => 16 * n + hexValue c) 0

/-- The words of a text, cut at blanks and line ends. -/
def words (text : List Char) : List (List Char) :=
  let step := fun (c : Char) (acc : List (List Char)) =>
    if c == ' ' || c == '\n' then [] :: acc
    else match acc with
      | [] => [[c]]
      | w :: ws => (c :: w) :: ws
  (text.foldr step [[]]).filter (!·.isEmpty)

/-- Reads a table: each word is one code point or a first and a last one. -/
def ofText (text : String) : CharRanges :=
  let bounds := (words text.toList).flatMap fun w =>
    let lo := w.takeWhile (· != '-')
    let hi := (w.dropWhile (· != '-')).drop 1
    [hexNumber lo, (if hi.isEmpty then hexNumber lo else hexNumber hi) + 1]
  ⟨bounds.toArray⟩

/-- How many entries of an ascending array are at most `n`, counted by bisection of the part
from `lo` to `hi`. -/
def rank (bounds : Array Nat) (n lo hi : Nat) : Nat :=
  if lo < hi then
    let mid := (lo + hi) / 2
    if bounds.getD mid 0 ≤ n then rank bounds n (mid + 1) hi else rank bounds n lo mid
  else lo
termination_by hi - lo

/-- A code point is in the set when it lies past an odd number of bounds. -/
def contains (r : CharRanges) (n : Nat) : Bool :=
  rank r.bounds n 0 r.bounds.size % 2 == 1

end CharRanges

end SecretScan.Text
