import SecretScan.Decimal.Binary

/-!
# The shortest numeral that reads back

Of all decimal numerals that round to a given number, `shortest` finds one with the fewest
digits, and of those the nearest. It tries grids of one to seventeen digits: on each the two
neighbours of the number are candidates, and a candidate is good when it lies in the interval of
the reals that round to the number.

`Decimal.shown` writes it: positional from 10⁻⁴ up to below 10¹⁶, with a point and at least one
digit after it, and with an exponent of at least two digits elsewhere.
-/

namespace SecretScan.Decimal

/-- A non-negative rational number. -/
structure Ratio where
  num : Nat
  den : Nat

namespace Ratio

def le (a b : Ratio) : Bool := a.num * b.den ≤ b.num * a.den

def lt (a b : Ratio) : Bool := a.num * b.den < b.num * a.den

/-- `digits * 10 ^ exponent`. -/
def ofDecimal (digits : Nat) (exponent : Int) : Ratio :=
  if 0 ≤ exponent then ⟨digits * Nat.pow 10 exponent.toNat, 1⟩
  else ⟨digits, Nat.pow 10 (-exponent).toNat⟩

/-- `m * 2 ^ q`. -/
def ofBinary (m : Nat) (q : Int) : Ratio :=
  if 0 ≤ q then ⟨m * Nat.pow 2 q.toNat, 1⟩ else ⟨m, Nat.pow 2 (-q).toNat⟩

/-- The whole part of `a / 10 ^ exponent`. -/
def steps (a : Ratio) (exponent : Int) : Nat :=
  if 0 ≤ exponent then a.num / (a.den * Nat.pow 10 exponent.toNat)
  else a.num * Nat.pow 10 (-exponent).toNat / a.den

/-- Twice the distance of two ratios, over the product of their denominators. -/
def distance (a b : Ratio) : Ratio :=
  let x := a.num * b.den
  let y := b.num * a.den
  ⟨(x - y) + (y - x), a.den * b.den⟩

/-- The exponent of the first digit of a positive ratio: `10 ^ e ≤ a < 10 ^ (e + 1)`. -/
def magnitude (a : Ratio) : Int :=
  let guess : Int := Int.ofNat (digitsOf a.num).length - Int.ofNat (digitsOf a.den).length
  if (ofDecimal 1 guess).le a then guess else guess - 1

end Ratio

/-- The reals that round to `m * 2 ^ q`: between the midpoints to the neighbours, which belong to
it when `m` is even. Below a power of two the neighbour is half as far. -/
def roundsTo (m : Nat) (q : Int) (a : Ratio) : Bool :=
  let hi := Ratio.ofBinary (2 * m + 1) (q - 1)
  let lo :=
    if m == Nat.pow 2 52 && q != -1074 then Ratio.ofBinary (4 * m - 1) (q - 2)
    else Ratio.ofBinary (2 * m - 1) (q - 1)
  if m % 2 == 0 then lo.le a && a.le hi else lo.lt a && a.lt hi

/-- The best numeral for `m * 2 ^ q` with a last digit worth `10 ^ exponent`, if one is good. -/
def candidate? (m : Nat) (q : Int) (exponent : Int) : Option (Nat × Int) :=
  let v := Ratio.ofBinary m q
  let below := v.steps exponent
  -- of the two neighbours on the grid, those that read back
  let good := [below, below + 1].filter fun n => roundsTo m q (Ratio.ofDecimal n exponent)
  match good with
  | [] => none
  | [n] => some (n, exponent)
  | n :: n' :: _ =>
    let near := (Ratio.ofDecimal n exponent).distance v
    let near' := (Ratio.ofDecimal n' exponent).distance v
    if near.lt near' || (near.le near' && n % 2 == 0) then some (n, exponent)
    else some (n', exponent)

/-- Digits and exponent of the shortest numeral for the positive number `m * 2 ^ q`. -/
def shortest (m : Nat) (q : Int) : Nat × Int :=
  let e := (Ratio.ofBinary m q).magnitude
  let found := (List.range 17).findSome? fun (n : Nat) => candidate? m q (e - Int.ofNat n)
  found.getD (m, q)

/-- Writes `0.ds * 10 ^ point` for digits `ds`, positional where that is short. -/
def layout (ds : List Char) (point : Int) : List Char :=
  let e := point - 1
  if -4 ≤ e ∧ e < 16 then
    if point ≤ 0 then '0' :: '.' :: List.replicate (-point).toNat '0' ++ ds
    else
      let p := point.toNat
      let whole := ds.take p ++ List.replicate (p - ds.length) '0'
      let rest := ds.drop p
      whole ++ '.' :: (if rest.isEmpty then ['0'] else rest)
  else
    let mantissa := match ds with
      | [] => []
      | [d] => [d]
      | d :: rest => d :: '.' :: rest
    let digits := digitsOf e.natAbs
    let digits := if digits.length < 2 then '0' :: digits else digits
    mantissa ++ 'e' :: (if e < 0 then '-' else '+') :: digits

/-- A list of digits without the zeros at its end. -/
def withoutTrailingZeros (ds : List Char) : List Char :=
  (ds.reverse.dropWhile (· == '0')).reverse

/-- A finite number as messages and documents show it. -/
def BinaryFraction.shown (x : BinaryFraction) : List Char :=
  let body :=
    if x.m == 0 then ['0', '.', '0']
    else
      let (n, e) := shortest x.m x.q
      let ds := digitsOf n
      layout (withoutTrailingZeros ds) (ds.length + e)
  if x.negative then '-' :: body else body

/-- A number as messages and documents show it. -/
def shown (x : Float) : String :=
  match BinaryFraction.ofFloat? x with
  | some b => String.ofList b.shown
  | none => if x.isNaN then "nan" else if x < 0 then "-inf" else "inf"

end SecretScan.Decimal
