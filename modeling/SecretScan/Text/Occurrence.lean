/-!
# Occurrences of one text in another

`occursIn`, `find?` and `replace` look for a text literally. Replacement goes from left to right
and goes on after what it replaced.
-/

namespace SecretScan.Text

/-- Does `needle` stand somewhere in the text? -/
def occursIn (needle : List Char) : List Char → Bool
  | [] => needle.isEmpty
  | c :: cs => needle.isPrefixOf (c :: cs) || occursIn needle cs

/-- Where the first occurrence of `needle` starts; the search is at position `pos`. -/
def findFrom (needle : List Char) (pos : Nat) : List Char → Option Nat
  | [] => if needle.isEmpty then some pos else none
  | c :: cs =>
    if needle.isPrefixOf (c :: cs) then some pos else findFrom needle (pos + 1) cs

/-- Where the first occurrence of `needle` starts. -/
def find? (needle text : List Char) : Option Nat :=
  findFrom needle 0 text

/-- Replaces every occurrence of `needle`, from left to right; occurrences that overlap a replaced
one are left alone. -/
def replace (needle filler : List Char) : List Char → List Char
  | [] => []
  | c :: cs =>
    if needle.isPrefixOf (c :: cs) then
      filler ++ replace needle filler (cs.drop (needle.length - 1))
    else c :: replace needle filler cs
termination_by text => text.length
decreasing_by
  all_goals simp only [List.length_drop, List.length_cons]; omega

end SecretScan.Text
