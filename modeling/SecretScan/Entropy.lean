import SecretScan.Decimal.Binary

/-!
# Shannon entropy

The bits per character that the frequencies of a text's characters carry. The sum runs over the
characters in the order in which they first appear.
-/

namespace SecretScan

/-- Counts a character. -/
def countChar (c : Char) : List (Char × Nat) → List (Char × Nat)
  | [] => [(c, 1)]
  | (d, n) :: rest => if c = d then (d, n + 1) :: rest else (d, n) :: countChar c rest

/-- How often each character of a text occurs, in the order of first appearance. -/
def frequencies (text : List Char) : List (Char × Nat) :=
  text.foldl (fun counts c => countChar c counts) []

/-- The binary logarithm. That of a power of two is a whole number, and exact; all others are as near
as the platform comes. -/
def log2 (x : Float) : Float :=
  match (Decimal.BinaryFraction.ofFloat? x).bind (·.exponent?) with
  | some k => Float.ofInt k
  | none => x.log2

/-- The entropy of a text in bits per character; zero for the empty text. -/
def entropy (text : List Char) : Float :=
  let length := Float.ofNat text.length
  (frequencies text).foldl (fun sum (_, n) =>
    let p := Float.ofNat n / length
    sum - p * log2 p) 0.0

end SecretScan
