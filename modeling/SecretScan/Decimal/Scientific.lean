import SecretScan.Decimal.Shortest

/-!
# Numbers with an exponent

Numbers rounded to a count of significant digits, halves to the even neighbour. `scientific` writes
one digit before the point and an exponent; `general` chooses between that and positional writing.
-/

namespace SecretScan.Decimal

/-- A positive ratio as `n * 10 ^ (e + 1 - digits)`, where `n` has this count of digits. -/
def significant (digits : Nat) (a : Ratio) : Nat × Int :=
  let e := a.magnitude
  let scale := Int.ofNat digits - 1 - e
  let n :=
    if 0 ≤ scale then roundedQuotient (a.num * Nat.pow 10 scale.toNat) a.den
    else roundedQuotient a.num (a.den * Nat.pow 10 (-scale).toNat)
  if n == Nat.pow 10 digits then (n / 10, e + 1) else (n, e)

/-- An exponent: the letter, a sign and at least two digits. -/
def exponentText (e : Int) : List Char :=
  let digits := digitsOf e.natAbs
  'e' :: (if e < 0 then '-' else '+') :: (if digits.length < 2 then '0' :: digits else digits)

namespace BinaryFraction

/-- The first digits of a number, sign aside, and the exponent of the first. -/
def leadingDigits (digits : Nat) (x : BinaryFraction) : List Char × Int :=
  if x.m == 0 then (List.replicate digits '0', 0)
  else
    let (n, d) := x.quotient
    let (n, e) := significant digits ⟨n, d⟩
    (digitsOf n, e)

/-- A point before digits, if there are any. -/
def fraction (ds : List Char) : List Char :=
  if ds.isEmpty then [] else '.' :: ds

/-- A number with one digit before the point and an exponent. -/
def scientific (places : Nat) (x : BinaryFraction) : List Char :=
  let (ds, e) := x.leadingDigits (places + 1)
  (if x.negative then ['-'] else []) ++ ds.take 1 ++ fraction (ds.drop 1) ++ exponentText e

/-- A number with a count of significant digits: positional when the exponent is at least -4 and
below the count. Zeros at the end are left out unless they are asked for. -/
def general (digits : Nat) (keepZeros : Bool) (x : BinaryFraction) : List Char :=
  let digits := max digits 1
  let (ds, e) := x.leadingDigits digits
  let shorten := fun (ds : List Char) => if keepZeros then ds else withoutTrailingZeros ds
  let body :=
    if e < -4 || Int.ofNat digits ≤ e then
      ds.take 1 ++ fraction (shorten (ds.drop 1)) ++ exponentText e
    else if e < 0 then
      '0' :: fraction (shorten (List.replicate (-e - 1).toNat '0' ++ ds))
    else ds.take (e.toNat + 1) ++ fraction (shorten (ds.drop (e.toNat + 1)))
  if x.negative then '-' :: body else body

end BinaryFraction

end SecretScan.Decimal
