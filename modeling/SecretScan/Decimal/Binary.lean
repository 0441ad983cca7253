/-!
# Binary fractions

A finite floating-point number is `m * 2 ^ q` for whole `m` and `q`. `BinaryFraction.ofFloat?`
reads both off the bits, so that rounding and printing are exact arithmetic on whole numbers.
-/

namespace SecretScan.Decimal

/-- The number `m * 2 ^ q`, negated if `negative`. -/
structure BinaryFraction where
  negative : Bool
  m : Nat
  q : Int
  deriving DecidableEq, Repr

namespace BinaryFraction

/-- The exact value of a finite number; none for infinities and for what is not a number. -/
def ofFloat? (x : Float) : Option BinaryFraction :=
  let bits := x.toBits.toNat
  let negative := bits / Nat.pow 2 63 == 1
  let e := bits / Nat.pow 2 52 % Nat.pow 2 11
  let f := bits % Nat.pow 2 52
  if e == 2047 then none
  else if e == 0 then some ⟨negative, f, -1074⟩
  else some ⟨negative, f + Nat.pow 2 52, Int.ofNat e - 1075⟩

/-- The number as a quotient of whole numbers, sign aside. -/
def quotient (x : BinaryFraction) : Nat × Nat :=
  if 0 ≤ x.q then (x.m * Nat.pow 2 x.q.toNat, 1) else (x.m, Nat.pow 2 (-x.q).toNat)

/-- Has the number no fractional part? -/
def isWhole (x : BinaryFraction) : Bool :=
  let (n, d) := x.quotient
  n % d == 0

/-- The whole number left when the fractional part is cut off. -/
def truncated (x : BinaryFraction) : Int :=
  let (n, d) := x.quotient
  if x.negative then -Int.ofNat (n / d) else Int.ofNat (n / d)

/-- The greatest whole number that is not above the number. -/
def floor (x : BinaryFraction) : Int :=
  let (n, d) := x.quotient
  if x.negative then -Int.ofNat ((n + d - 1) / d) else Int.ofNat (n / d)

/-- The exponent of a power of two; none for other numbers. -/
def exponent? (x : BinaryFraction) : Option Int :=
  let k := x.m.log2
  if !x.negative && x.m == Nat.pow 2 k then some (x.q + Int.ofNat k) else none

end BinaryFraction

/-- The quotient `n / d` rounded to the nearest whole number, halves to the even one. -/
def roundedQuotient (n d : Nat) : Nat :=
  let q := n / d
  let r := n % d
  if 2 * r < d then q
  else if d < 2 * r then q + 1
  else if q % 2 == 0 then q else q + 1

/-- The decimal digits of a number. -/
def digitsOf (n : Nat) : List Char :=
  Nat.toDigits 10 n

/-- A number with a fixed count of decimal places, rounded half to even. -/
def BinaryFraction.fixed (places : Nat) (x : BinaryFraction) : List Char :=
  let (n, d) := x.quotient
  let scaled := roundedQuotient (n * Nat.pow 10 places) d
  let ds := digitsOf scaled
  let ds := List.replicate (places + 1 - ds.length) '0' ++ ds
  let point := if places == 0 then [] else '.' :: ds.drop (ds.length - places)
  (if x.negative then ['-'] else []) ++ ds.take (ds.length - places) ++ point

end SecretScan.Decimal
