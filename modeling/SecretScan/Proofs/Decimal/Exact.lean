import Mathlib
import SecretScan.Decimal.Reading

/-!
# The exact value of a floating-point number

A finite floating-point number is a rational number. `exactValue?` takes it from the unpacked form
of the number; `BinaryFraction.ofFloat?` reads the same one off the bits.

## Key results

- `exactValue?_eq`: the fraction that is read off the bits is the value of the number
- `BinaryFraction.value_eq_intCast_iff`: which fractions are whole numbers, and which they are
- `length_digitsOf_le_of_floatOfInt?`: a whole number with a float near it has few digits
-/

namespace SecretScan.Decimal

open Float.Model

/-- The value of an unpacked number that is finite. -/
def unpackedValue? : UnpackedFloat → Option ℚ
  | .infinity _ | .notANumber => none
  | .zero _ => some 0
  | .finite .positive m e _ => some (m * 2 ^ e)
  | .finite .negative m e _ => some (-(m * 2 ^ e))

/-- The value of a floating-point number that is finite. -/
def exactValue? (x : Float) : Option ℚ :=
  unpackedValue? x.toModel.unpack

/-- A float that stands for a number is one. -/
theorem isNaN_eq_false_of_exactValue? {x : Float} {a : ℚ} (h : exactValue? x = some a) :
    x.isNaN = false := by
  unfold exactValue? at h
  have hnan : x.isNaN = x.toModel.unpack.isNaN := rfl
  rw [hnan]
  cases hx : x.toModel.unpack with
  | notANumber => rw [hx] at h; exact nomatch h
  | _ => rfl

/-- A float that stands for a number is finite. -/
theorem isInf_eq_false_of_exactValue? {x : Float} {a : ℚ} (h : exactValue? x = some a) :
    x.isInf = false := by
  unfold exactValue? at h
  have hinf : x.isInf = x.toModel.unpack.isInf := rfl
  rw [hinf]
  cases hx : x.toModel.unpack with
  | infinity => rw [hx] at h; exact nomatch h
  | _ => rfl

/-! ## The fields of the bits -/

/-- The exponent field: eleven bits above the mantissa. -/
private theorem toNat_unpackExponent (b : BitVec Format.binary64.numBits) :
    (UnpackedFloat.unpackExponent b).toNat = b.toNat / 2 ^ 52 % 2 ^ 11 := by
  simp [UnpackedFloat.unpackExponent, Nat.shiftRight_eq_div_pow]

/-- The mantissa field: the lowest 52 bits. -/
private theorem toNat_unpackMantissa (b : BitVec Format.binary64.numBits) :
    (UnpackedFloat.unpackMantissa b).toNat = b.toNat % 2 ^ 52 := by
  simp [UnpackedFloat.unpackMantissa]

/-- The sign field: the highest bit. -/
private theorem toNat_unpackSign (b : BitVec Format.binary64.numBits) :
    (UnpackedFloat.unpackSign b).toNat = b.toNat / 2 ^ 63 := by
  have hb : b.toNat < 2 ^ 64 := b.isLt
  simp [UnpackedFloat.unpackSign, Nat.shiftRight_eq_div_pow]
  omega

/-- The sign of a float is told by its highest bit. -/
private theorem ofBitVec_unpackSign (b : BitVec Format.binary64.numBits) :
    UnpackedFloat.Sign.ofBitVec (UnpackedFloat.unpackSign b) =
      if b.toNat / 2 ^ 63 == 1 then .negative else .positive := by
  rw [← toNat_unpackSign]
  generalize UnpackedFloat.unpackSign b = sign
  -- a bit is zero or one
  have hsign : sign.toNat = 0 ∨ sign.toNat = 1 := by
    have h := sign.isLt
    omega
  obtain h | h := hsign
  · obtain rfl : sign = 0#1 := BitVec.toNat_inj.1 h
    rfl
  · obtain rfl : sign = 1#1 := BitVec.toNat_inj.1 h
    rfl

/-- A mantissa with the digit before it that is not written. -/
theorem toNat_one_append (m : BitVec 52) : (1#1 ++ m).toNat = m.toNat + 2 ^ 52 := by
  have h := Nat.shiftLeft_add_eq_or_of_lt m.isLt 1
  rw [BitVec.toNat_append, BitVec.toNat_ofNat, ← h, Nat.shiftLeft_eq]
  omega

/-- The number that a fraction is. -/
def BinaryFraction.value (f : BinaryFraction) : ℚ :=
  if f.negative then -(f.m * 2 ^ f.q) else f.m * 2 ^ f.q

/-- A fraction without a mantissa is zero, whatever its exponent is. -/
@[simp] theorem BinaryFraction.value_zero (negative : Bool) (q : Int) :
    BinaryFraction.value ⟨negative, 0, q⟩ = 0 := by
  simp [BinaryFraction.value]

/-- What a finite float stands for. -/
private theorem unpackedValue?_finite {negative : Bool} {m : Nat} {e : Int} (hm : 0 < m) :
    unpackedValue? (.finite (if negative then .negative else .positive) m e hm) =
      some (BinaryFraction.value ⟨negative, m, e⟩) := by
  cases negative <;> rfl

/-- The fraction that is read off the bits is the value of the number. -/
theorem exactValue?_eq (x : Float) :
    exactValue? x = (BinaryFraction.ofFloat? x).map BinaryFraction.value := by
  obtain ⟨b, hb, hunpack⟩ : ∃ b : BitVec Format.binary64.numBits, x.toBits.toNat = b.toNat ∧
      exactValue? x = unpackedValue? (UnpackedFloat.unpack Format.binary64 b) :=
    ⟨x.toBits.toBitVec, rfl, rfl⟩
  have hexponent := toNat_unpackExponent b
  have hmantissa := toNat_unpackMantissa b
  rw [hunpack]
  unfold UnpackedFloat.unpack BinaryFraction.ofFloat?
  simp only [ofBitVec_unpackSign, hb, Nat.pow_eq, ← hexponent, ← hmantissa]
  by_cases htop : UnpackedFloat.unpackExponent b = -1#11
  · -- an infinity, or no number
    rw [if_pos htop, htop]
    split <;> rfl
  rw [if_neg htop]
  have htop' : ((UnpackedFloat.unpackExponent b).toNat == 2047) = false := by
    rw [beq_eq_false_iff_ne]
    exact fun h => htop (BitVec.toNat_inj.1 h)
  simp only [htop', Bool.false_eq_true, if_false]
  by_cases hzero : UnpackedFloat.unpackExponent b = 0#11
  · -- zero, or a number without a digit before its mantissa
    rw [if_pos hzero, hzero]
    by_cases hm : UnpackedFloat.unpackMantissa b = 0#52
    · rw [dif_pos hm, hm]
      exact congrArg some (BinaryFraction.value_zero _ _).symm
    · rw [dif_neg hm, unpackedValue?_finite]
      rfl
  · have hzero' : ((UnpackedFloat.unpackExponent b).toNat == 0) = false := by
      rw [beq_eq_false_iff_ne]
      exact fun h => hzero (BitVec.toNat_inj.1 h)
    rw [if_neg hzero, hzero', unpackedValue?_finite, toNat_one_append]
    rfl

/-! ## Whole numbers -/

namespace BinaryFraction

/-- The quotient of a fraction has a positive denominator. -/
theorem quotient_pos (f : BinaryFraction) : 0 < f.quotient.2 := by
  unfold quotient
  split
  · exact Nat.one_pos
  · exact Nat.two_pow_pos _

/-- The quotient of a fraction is its value without the sign. -/
private theorem div_quotient (f : BinaryFraction) :
    (f.quotient.1 : ℚ) / f.quotient.2 = f.m * 2 ^ f.q := by
  unfold quotient
  -- the power is whole, or one over a whole number
  split
  next hq =>
    obtain ⟨k, hk⟩ := Int.eq_ofNat_of_zero_le hq
    simp [hk]
  next hq =>
    obtain ⟨k, hk⟩ := Int.exists_eq_neg_ofNat (le_of_not_ge hq)
    simp [hk, div_eq_mul_inv]

/-- A quotient of whole numbers is a whole number if nothing is left over. -/
private theorem div_eq_intCast_iff {a d : Nat} (hd : 0 < d) {n : Int} :
    (a : ℚ) / d = n ↔ a % d = 0 ∧ Int.ofNat (a / d) = n := by
  have hd' : (d : ℚ) ≠ 0 := Nat.cast_ne_zero.2 hd.ne'
  rw [div_eq_iff hd']
  constructor
  · -- the quotient is whole, so that the divisor goes into the dividend
    intro h
    have hmul : (a : Int) = n * d := by exact_mod_cast h
    have hdvd : d ∣ a := Int.natCast_dvd_natCast.1 ⟨n, by rw [hmul, mul_comm]⟩
    refine ⟨Nat.mod_eq_zero_of_dvd hdvd, ?_⟩
    rw [Int.ofNat_eq_natCast, Int.natCast_div, hmul]
    exact Int.mul_ediv_cancel _ (Int.natCast_ne_zero.2 hd.ne')
  · rintro ⟨hmod, rfl⟩
    have hmul : a = a / d * d := (Nat.div_mul_cancel (Nat.dvd_of_mod_eq_zero hmod)).symm
    rw [Int.ofNat_eq_natCast, Int.cast_natCast]
    exact_mod_cast hmul

/-- Which fractions are whole numbers, and which they are. -/
theorem value_eq_intCast_iff (f : BinaryFraction) (n : Int) :
    f.value = n ↔ f.isWhole = true ∧ f.truncated = n := by
  have hwhole : f.isWhole = true ↔ f.quotient.1 % f.quotient.2 = 0 := by simp [isWhole]
  unfold value truncated
  rw [hwhole, ← div_quotient]
  -- a negative number is the other one with its sign changed
  cases f.negative with
  | false => simpa using div_eq_intCast_iff f.quotient_pos
  | true =>
    simp only [if_true]
    rw [neg_eq_iff_eq_neg, ← Int.cast_neg, div_eq_intCast_iff f.quotient_pos, neg_eq_iff_eq_neg]

/-- What is not below zero has no whole number below zero under it. -/
theorem floor_nonneg {f : BinaryFraction} (h : 0 ≤ f.value) : 0 ≤ f.floor := by
  have hd := f.quotient_pos
  unfold value at h
  unfold floor
  rw [← div_quotient] at h
  cases hsign : f.negative with
  | false => exact Int.natCast_nonneg _
  | true =>
    -- only zero has both a sign and no value below zero
    rw [if_pos hsign, neg_nonneg] at h
    have hzero : (f.quotient.1 : ℚ) / f.quotient.2 = 0 := le_antisymm h (by positivity)
    have hnumerator : f.quotient.1 = 0 := by
      rw [div_eq_zero_iff, Nat.cast_eq_zero, Nat.cast_eq_zero] at hzero
      omega
    have hdiv : (0 + f.quotient.2 - 1) / f.quotient.2 = 0 := Nat.div_eq_of_lt (by omega)
    dsimp only
    rw [if_pos rfl, hnumerator, hdiv]
    exact le_rfl

end BinaryFraction

/-- A numeral that is out of all range is read as an infinity. -/
private theorem toFloat_of_long {n : Nat} (hlong : 400 < (digitsOf n).length) :
    toFloat n 0 = 1.0 / 0.0 := by
  -- so many digits belong to no zero
  have hzero : (n == 0) = false := by
    rw [beq_eq_false_iff_ne]
    rintro rfl
    exact absurd hlong (by decide)
  have hsize : 400 < Int.ofNat (digitsOf n).length + 0 := by
    rw [Int.ofNat_eq_natCast]
    omega
  simp only [toFloat, hzero, hsize, Bool.false_eq_true, if_false, if_true]

/-- A numeral of more than four hundred digits is read as infinity. -/
theorem isInf_toFloat_of_long {n : Nat} (hlong : 400 < (digitsOf n).length) :
    (toFloat n 0).isInf = true := by
  rw [toFloat_of_long hlong]
  decide

/-- A whole number with a float near it has few digits. -/
theorem length_digitsOf_le_of_floatOfInt? {n : Int} {x : Float} (h : floatOfInt? n = some x) :
    (digitsOf n.natAbs).length ≤ 400 := by
  by_contra hlong
  simp [floatOfInt?, isInf_toFloat_of_long (not_le.1 hlong)] at h

end SecretScan.Decimal
