import SecretScan.Proofs.Decimal.Rounding

/-!
# Whole numbers near floating-point numbers

A whole number that is read as a floating-point number is rounded to 53 binary digits. Up to
`2 ^ 53` nothing is lost; beyond, what is read is the nearest number of 53 digits.

## Key results

- `exactValue?_toFloat`, `isInf_toFloat`: what a whole number is read as, and which are too large
- `isNearest_nearestWhole`: no floating-point number is nearer than the one that is read
- `IsNearest.eq_iff`: only what is a floating-point number itself is read exactly
-/

namespace SecretScan.Decimal

open Float.Model Float.Model.UnpackedFloat

/-- The number of 53 significant binary digits that is nearest to a whole number; of two, the one
with an even last digit. -/
def nearestWhole (n : Nat) : Nat :=
  roundedQuotient n (2 ^ (n.log2 - 52)) * 2 ^ (n.log2 - 52)

/-! ## Rounded quotients -/

/-- Rounding depends on the quotient only, not on how it is written. -/
theorem roundedQuotient_mul_right (n d : Nat) {c : Nat} (hc : 0 < c) :
    roundedQuotient (n * c) (d * c) = roundedQuotient n d := by
  have hlt : ∀ a b : Nat, a * c < b * c ↔ a < b := fun a b => Nat.mul_lt_mul_right hc
  unfold roundedQuotient
  simp only [Nat.mul_div_mul_right n d hc, Nat.mul_mod_mul_right, ← Nat.mul_assoc, hlt]

/-- A whole number is not rounded. -/
theorem roundedQuotient_one (n : Nat) : roundedQuotient n 1 = n := by
  simp [roundedQuotient, Nat.mod_one]

/-- A quotient is rounded by a half at most. -/
private theorem roundedQuotient_half (n : Nat) {d : Nat} (hd : 0 < d) :
    2 * (roundedQuotient n d * d) ≤ 2 * n + d ∧ 2 * n ≤ 2 * (roundedQuotient n d * d) + d := by
  have hn := Nat.div_add_mod' n d
  have hsucc : (n / d + 1) * d = n / d * d + d := Nat.succ_mul (n / d) d
  have hlt := Nat.mod_lt n hd
  unfold roundedQuotient
  dsimp only
  split_ifs <;> constructor <;> omega

/-- A quotient that is more than a whole number and a half, or as much with the whole number odd,
is rounded up. -/
private theorem roundedQuotient_eq_succ {n d : Nat} (hodd : n / d % 2 = 1)
    (hhalf : d ≤ 2 * (n % d)) :
    roundedQuotient n d = n / d + 1 := by
  simp [roundedQuotient, hodd, hhalf.not_gt]

/-- No other multiple is nearer than that of the rounded quotient. -/
private theorem roundedQuotient_nearest (n : Nat) {d : Nat} (hd : 0 < d) (j : Int) :
    |(roundedQuotient n d : Int) * d - n| ≤ |j * d - n| := by
  obtain ⟨hlow, hhigh⟩ := roundedQuotient_half n hd
  obtain rfl | hne := eq_or_ne j (roundedQuotient n d)
  · exact le_rfl
  -- the rounding is off by half the divisor at most, and any other multiple is a whole one away
  have hhalf : 2 * |(roundedQuotient n d : Int) * d - n| ≤ d := by
    rw [← abs_two, ← abs_mul, abs_le]
    omega
  have hstep : (d : Int) ≤ |j * d - roundedQuotient n d * d| := by
    rw [← sub_mul, abs_mul, Nat.abs_cast]
    have hone := Int.one_le_abs (sub_ne_zero.2 hne)
    nlinarith
  have htriangle := abs_sub_le (j * d) n (roundedQuotient n d * d)
  rw [abs_sub_comm (n : Int)] at htriangle
  omega

/-! ## Nearness -/

/-- A number of at most 53 bits is a double itself. -/
theorem nearestWhole_of_lt {n : Nat} (hn : n < 2 ^ 53) : nearestWhole n = n := by
  have hlog : n.log2 - 52 = 0 := by
    obtain rfl | hpos := eq_or_ne n 0
    · rfl
    · have := (Nat.log2_lt hpos).2 hn
      omega
  rw [nearestWhole, hlog, pow_zero, roundedQuotient_one, Nat.mul_one]

/-- A double has a mantissa of at most 53 bits. -/
private theorem m_lt_of_ofFloat? {x : Float} {f : BinaryFraction}
    (h : BinaryFraction.ofFloat? x = some f) :
    f.m < 2 ^ 53 := by
  have hmod : x.toBits.toNat % 2 ^ 52 < 2 ^ 52 := Nat.mod_lt _ (Nat.two_pow_pos 52)
  simp only [BinaryFraction.ofFloat?, Nat.pow_eq] at h
  split_ifs at h <;> cases h <;> dsimp only <;> omega

/-- A number of 53 digits is a multiple of a power of two, or below all numbers whose 53 digits
start further up. -/
private theorem value_multiple_or_lt (f : BinaryFraction) (hf : f.m < 2 ^ 53) (k : Nat) :
    (∃ j : Int, f.value = j * 2 ^ k) ∨ f.value < 2 ^ 52 * 2 ^ k := by
  obtain hk | hk := le_or_gt (k : Int) f.q
  · -- the last digit of the number is at the power or above it
    left
    obtain ⟨i, hi⟩ := Int.eq_ofNat_of_zero_le (Int.sub_nonneg_of_le hk)
    have hq : (2 : ℚ) ^ f.q = 2 ^ i * 2 ^ k := by
      rw [← zpow_natCast, ← zpow_natCast, ← zpow_add₀ two_ne_zero]
      congr 1
      omega
    refine ⟨(if f.negative then -1 else 1) * f.m * 2 ^ i, ?_⟩
    rw [BinaryFraction.value, hq]
    split_ifs <;> push_cast <;> ring
  · -- the last digit is below the power, so that the whole mantissa stays below the bound
    right
    have hpos : (0 : ℚ) < 2 ^ 52 * 2 ^ k := by positivity
    have hm : (f.m : ℚ) < 2 ^ 53 := by exact_mod_cast hf
    have hq : (2 : ℚ) ^ f.q ≤ 2 ^ ((k : Int) - 1) := zpow_le_zpow_right₀ one_le_two (by omega)
    have hmagnitude : (f.m : ℚ) * 2 ^ f.q < 2 ^ 52 * 2 ^ k := by
      calc (f.m : ℚ) * 2 ^ f.q < 2 ^ 53 * 2 ^ f.q :=
            mul_lt_mul_of_pos_right hm (zpow_pos two_pos _)
        _ ≤ 2 ^ 53 * 2 ^ ((k : Int) - 1) := mul_le_mul_of_nonneg_left hq (by positivity)
        _ = 2 ^ 52 * 2 ^ k := by
            rw [zpow_sub_one₀ two_ne_zero, zpow_natCast]
            ring
    have hnonneg : (0 : ℚ) ≤ f.m * 2 ^ f.q := by positivity
    rw [BinaryFraction.value]
    split_ifs <;> linarith

/-- No floating-point number is nearer to a whole number. -/
private theorem nearestWhole_le_of_isFloat (n : Nat) {x : Float} {a : ℚ}
    (h : exactValue? x = some a) :
    |(nearestWhole n : ℚ) - n| ≤ |a - n| := by
  obtain hsmall | hlarge := lt_or_ge n (2 ^ 53)
  · rw [nearestWhole_of_lt hsmall, sub_self, abs_zero]
    exact abs_nonneg _
  have hpos : n ≠ 0 := by omega
  have hlog : 53 ≤ n.log2 := (Nat.le_log2 hpos).2 hlarge
  -- among the multiples of the last digit the rounded number is nearest
  have hnearest : ∀ j : Int, |(nearestWhole n : ℚ) - n| ≤ |(j : ℚ) * 2 ^ (n.log2 - 52) - n| := by
    intro j
    have := roundedQuotient_nearest n (Nat.two_pow_pos (n.log2 - 52)) j
    rw [nearestWhole]
    exact_mod_cast this
  rw [exactValue?_eq, Option.map_eq_some_iff] at h
  obtain ⟨f, hf, rfl⟩ := h
  obtain ⟨j, hj⟩ | hbelow := value_multiple_or_lt f (m_lt_of_ofFloat? hf) (n.log2 - 52)
  · rw [hj]
    exact hnearest j
  · -- the least number of as many digits lies between the two
    have hleast : (2 : ℚ) ^ 52 * 2 ^ (n.log2 - 52) ≤ n := by
      rw [← pow_add, Nat.add_sub_cancel' (by omega)]
      exact_mod_cast Nat.log2_self_le hpos
    refine (hnearest (2 ^ 52)).trans ?_
    push_cast
    rw [abs_of_nonpos (by linarith), abs_of_nonpos (by linarith)]
    linarith

/-- What is above zero does not become zero. -/
theorem nearestWhole_pos {n : Nat} (hn : 0 < n) : 0 < nearestWhole n := by
  obtain hsmall | hlarge := lt_or_ge n (2 ^ 53)
  · rwa [nearestWhole_of_lt hsmall]
  · have hlog : 53 ≤ n.log2 := (Nat.le_log2 hn.ne').2 hlarge
    have hrounded := (roundedQuotient_log2_bounds (m := n) (by omega)).1
    exact Nat.mul_pos ((Nat.two_pow_pos 52).trans_le hrounded) (Nat.two_pow_pos _)

/-! ## The largest number -/

private theorem two_pow_1024_eq : (2 : Nat) ^ 1024 = 2 ^ 54 * 2 ^ 970 := by
  rw [← pow_add]

private theorem two_pow_971_eq : (2 : Nat) ^ 971 = 2 * 2 ^ 970 := by
  rw [← pow_succ']

/-- From halfway between the largest floating-point number and the next power of two on, a whole
number is rounded to that power or to more. -/
private theorem two_pow_1024_le_nearestWhole {n : Nat} (hle : 2 ^ 1024 - 2 ^ 970 ≤ n) :
    2 ^ 1024 ≤ nearestWhole n := by
  have htop := two_pow_1024_eq
  have hlast := two_pow_971_eq
  have hpos : 0 < (2 : Nat) ^ 970 := by positivity
  have hn : n ≠ 0 := by omega
  have hdigits : ∀ k, n.log2 < k ↔ n < 2 ^ k := fun _ => Nat.log2_lt hn
  obtain hless | hmore := lt_or_ge n (2 ^ 1024)
  · -- all digits are ones, and what is left is a half or more
    have hlog : n.log2 = 1023 :=
      Nat.le_antisymm (Nat.le_of_lt_succ ((hdigits 1024).2 hless)) ((Nat.le_log2 hn).2 (by omega))
    have hdiv : n / 2 ^ 971 = 2 ^ 53 - 1 := by
      rw [Nat.div_eq_iff (by omega)]
      omega
    have hmod := Nat.div_add_mod n (2 ^ 971)
    rw [hdiv] at hmod
    have hround : roundedQuotient n (2 ^ 971) = 2 ^ 53 := by
      rw [roundedQuotient_eq_succ (by rw [hdiv]; norm_num) (by omega), hdiv]
      norm_num
    -- so rounding carries into a further digit
    have hwhole : nearestWhole n = roundedQuotient n (2 ^ 971) * 2 ^ 971 := by
      rw [nearestWhole, hlog]
    rw [hwhole, hround]
    omega
  · -- longer numbers are beyond the limit anyway
    have hlog : 1024 ≤ n.log2 := not_lt.1 fun h => hmore.not_gt ((hdigits 1024).1 h)
    calc (2 : Nat) ^ 1024 ≤ 2 ^ (52 + (n.log2 - 52)) := pow_le_pow_right₀ one_le_two (by omega)
      _ = 2 ^ 52 * 2 ^ (n.log2 - 52) := pow_add 2 52 _
      _ ≤ nearestWhole n := Nat.mul_le_mul_right _ (roundedQuotient_log2_bounds (by omega)).1

/-- Below that, it is rounded to a floating-point number. -/
private theorem nearestWhole_lt_two_pow_1024 {n : Nat} (hlt : n < 2 ^ 1024 - 2 ^ 970) :
    nearestWhole n < 2 ^ 1024 := by
  have htop := two_pow_1024_eq
  have hlast := two_pow_971_eq
  -- the last digit of the number is that of the largest float at most
  have hlog : n.log2 - 52 ≤ 971 := by
    obtain rfl | hn := eq_or_ne n 0
    · exact Nat.zero_le 971
    · have := (Nat.log2_lt (k := 1024) hn).2 (by omega)
      omega
  have hdigit : 2 ^ (n.log2 - 52) ≤ 2 ^ 971 := pow_le_pow_right₀ one_le_two hlog
  have hhalf := (roundedQuotient_half n (Nat.two_pow_pos (n.log2 - 52))).1
  rw [nearestWhole]
  omega

/-! ## Whole numbers as floating-point numbers -/

/-- A factor of two adds one bit. -/
theorem log2_mul_two_pow {n : Nat} (hn : n ≠ 0) (k : Nat) : (n * 2 ^ k).log2 = n.log2 + k := by
  rw [Nat.log2_eq_iff (Nat.mul_ne_zero hn (Nat.two_pow_pos k).ne'), Nat.add_right_comm, pow_add,
    pow_add _ _ k]
  exact ⟨Nat.mul_le_mul_right _ (Nat.log2_self_le hn),
    Nat.mul_lt_mul_of_pos_right Nat.lt_log2_self (Nat.two_pow_pos k)⟩

/-- Zeros after a whole number do not change what it is rounded to. -/
private theorem roundedQuotient_mul_two_pow {n k : Nat} (hn : n ≠ 0) (hk : 52 ≤ n.log2 + k) :
    (roundedQuotient (n * 2 ^ k) (2 ^ ((n * 2 ^ k).log2 - 52)) : ℚ) *
      2 ^ (((n * 2 ^ k).log2 : Int) + -k - 52) = nearestWhole n := by
  rw [log2_mul_two_pow hn]
  obtain hlarge | hsmall := le_or_gt 52 n.log2
  · -- the zeros are shifted out before anything is rounded
    have hexponent : ((n.log2 + k : Nat) : Int) + -k - 52 = (n.log2 - 52 : Nat) := by omega
    rw [hexponent, Nat.sub_add_comm hlarge, pow_add,
      roundedQuotient_mul_right _ _ (Nat.two_pow_pos k), zpow_natCast, nearestWhole]
    push_cast
    rfl
  · -- the zeros fill the mantissa, and what is left of them is shifted out again
    have hlt : n < 2 ^ 53 := Nat.lt_log2_self.trans_le (Nat.pow_le_pow_right two_pos (by omega))
    have hexponent : ((n.log2 + k : Nat) : Int) + -k - 52 = -((52 - n.log2 : Nat) : Int) := by omega
    have hzeros : n * 2 ^ k = n * 2 ^ (52 - n.log2) * 2 ^ (n.log2 + k - 52) := by
      rw [Nat.mul_assoc, ← pow_add]
      congr 2
      omega
    have hone := roundedQuotient_mul_right (n * 2 ^ (52 - n.log2)) 1
      (Nat.two_pow_pos (n.log2 + k - 52))
    rw [Nat.one_mul] at hone
    rw [hexponent, hzeros, hone, roundedQuotient_one, nearestWhole_of_lt hlt, zpow_neg,
      zpow_natCast]
    push_cast
    rw [mul_assoc, mul_inv_cancel₀ (by positivity), mul_one]

/-- A whole number, with enough zeros after it, is packed as the number nearest to it. -/
private theorem holds_of_mul_two_pow {n k : Nat} (hn : n ≠ 0) (hk : 52 ≤ n.log2 + k) :
    Holds (UnpackedFloat.unpack Format.binary64 (UnpackedFloat.pack Format.binary64
      (roundWithAccuracy Format.binary64 .positive (n * 2 ^ k) (-k) .exact))) (nearestWhole n) := by
  refine holds_unpack_pack_roundWithAccuracy ?_ ?_ (roundedQuotient_mul_two_pow hn hk) <;>
    rw [log2_mul_two_pow hn] <;> omega

/-- A number times one is the number. -/
theorem Holds.mul_one {x one : Float} {a : ℚ} (h : Holds x.toModel.unpack a)
    (hone : one.toModel.unpack = .finite .positive (2 ^ 52) (-52) (by positivity)) (hlow : 1 ≤ a)
    (hhigh : a < 2 ^ (1024 : Int)) : Holds (x * one).toModel.unpack a := by
  obtain ⟨m, e, hm, hunpack, hlog, hvalue⟩ := h.finite hhigh
  have hmul : (x * one).toModel.unpack = UnpackedFloat.unpack Format.binary64
      (UnpackedFloat.pack Format.binary64
        (UnpackedFloat.mul Format.binary64 x.toModel.unpack one.toModel.unpack)) := rfl
  -- multiplying by one adds 52 zeros to the mantissa
  have hlog' : (m * 2 ^ 52).log2 = 104 := by rw [log2_mul_two_pow hm.ne', hlog]
  -- since the float is one at least, its last digit is within range
  have he : -1074 ≤ e := by
    have hpow := hlow.trans_lt (hvalue ▸ (two_zpow_le_of_log2 hm e).2)
    rw [hlog, ← zpow_zero 2, zpow_lt_zpow_iff_right₀ one_lt_two] at hpow
    omega
  rw [hmul, hunpack, hone]
  refine holds_unpack_pack_roundWithAccuracy (m := m * 2 ^ 52) (e := e + -52) ?_ ?_ ?_ <;>
    rw [hlog']
  · omega
  · omega
  · have hexponent : ((104 : Nat) : Int) + (e + -52) - 52 = e := by omega
    have hquotient := roundedQuotient_mul_right m 1 (Nat.two_pow_pos 52)
    rw [Nat.one_mul, roundedQuotient_one] at hquotient
    rw [hexponent, ← hvalue, hquotient]

/-- The table of the powers of ten begins with one. -/
private theorem unpack_powerOfTen_zero : Float.exactlyRepresentablePowersOfTen[0].toModel.unpack =
    .finite .positive (2 ^ 52) (-52) (by positivity) :=
  rfl

/-- A whole number of 53 digits is converted as it is. -/
private theorem holds_toUInt64 {n : Nat} (hn : 0 < n) (hsmall : n < 2 ^ 53) :
    Holds n.toUInt64.toFloat.toModel.unpack (nearestWhole n) := by
  -- the digits fit into the mantissa, so nothing is rounded
  have hlog := (Nat.log2_lt hn.ne').2 hsmall
  have hmod : n.toUInt64.toNat = n := Nat.mod_eq_of_lt (hsmall.trans (by norm_num))
  have hshift : (0 - max ((n.log2 : Int) + 0 - 52) (-1074)).toNat = 52 - n.log2 := by omega
  have hround : UnpackedFloat.ofUInt64 Format.binary64 n.toUInt64 =
      roundWithAccuracy Format.binary64 .positive (n * 2 ^ (52 - n.log2))
        (-((52 - n.log2 : Nat) : Int)) .exact := by
    rw [UnpackedFloat.ofUInt64, hmod, UnpackedFloat.ofNat, UnpackedFloat.ofInt,
      UnpackedFloat.normalize, Int.compare_eq_gt.2 (by omega)]
    dsimp only
    rw [UnpackedFloat.round, decreaseExponent, targetExponent_totalExponent, Int.toNat_natCast,
      hshift, Nat.shiftLeft_eq, Int.zero_sub]
  change Holds (UnpackedFloat.unpack Format.binary64 (UnpackedFloat.pack Format.binary64
    (UnpackedFloat.ofUInt64 Format.binary64 n.toUInt64))) _
  rw [hround]
  exact holds_of_mul_two_pow hn.ne' (by omega)

/-- A whole number is converted through a product with a power of ten. -/
private theorem holds_ofScientific {n : Nat} (hn : 0 < n) :
    Holds (Float.Model.ofScientific n 0).unpack (nearestWhole n) := by
  -- neither end of the range of exponents is met without an exponent
  have hpower : ¬ (0 : Int) > 2 ^ Format.binary64.exponentBits := by decide
  have hlow : ¬ (0 : Int) < -(2 ^ Format.binary64.exponentBits + (n.log2 : Int)) := by
    have : (0 : Int) ≤ 2 ^ Format.binary64.exponentBits := by decide
    omega
  have hdigits : Format.binary64.mantissaBits = 53 := rfl
  -- a power of ten that is one multiplies by a power of two
  have hmul : UnpackedFloat.ofScientific Format.binary64 n 0 =
      roundWithAccuracy Format.binary64 .positive (n * 2 ^ 53) (-(53 : Nat)) .exact := by
    rw [UnpackedFloat.ofScientific, dif_neg hn.ne', if_neg hpower, if_neg hlow, if_pos le_rfl,
      UnpackedFloat.mul, hdigits, Nat.shiftLeft_eq, Int.add_zero, Int.toNat_zero, pow_zero,
      Nat.mul_one]
    rfl
  change Holds (UnpackedFloat.unpack Format.binary64 (UnpackedFloat.pack Format.binary64
    (UnpackedFloat.ofScientific Format.binary64 n 0))) _
  rw [hmul]
  exact holds_of_mul_two_pow hn.ne' (by omega)

/-- A whole number is read digit by digit. -/
private theorem holds_toFloat {n : Nat} (hn : 0 < n) (hlen : (digitsOf n).length ≤ 400) :
    Holds (toFloat n 0).toModel.unpack (nearestWhole n) := by
  have hzero : (n == 0) = false := beq_eq_false_iff_ne.2 hn.ne'
  -- numerals of so many digits are read by the standard reader
  have hfloat : toFloat n 0 = Float.ofScientific n false 0 := by
    unfold toFloat
    rw [hzero, Int.ofNat_eq_natCast]
    dsimp only
    rw [if_neg (by decide), if_neg (by omega), if_neg (by omega)]
    rfl
  rw [hfloat, Float.ofScientific]
  -- the standard reader is exact where both factors are
  by_cases hsmall : n < 2 ^ 53
  · have hlimit : (n : ℚ) < 2 ^ (1024 : Int) := by
      calc (n : ℚ) < 2 ^ (53 : Int) := by exact_mod_cast hsmall
        _ ≤ 2 ^ (1024 : Int) := zpow_le_zpow_right₀ one_le_two (by decide)
    rw [dif_pos ⟨hsmall, by decide⟩]
    dsimp only
    rw [if_neg (by decide)]
    refine (holds_toUInt64 hn hsmall).mul_one unpack_powerOfTen_zero ?_ ?_ <;>
      rw [nearestWhole_of_lt hsmall]
    · exact_mod_cast hn
    · exact hlimit
  · rw [dif_neg (fun h => hsmall h.1)]
    exact holds_ofScientific hn

/-- The numeral of a whole number that is not too large is within all range. -/
private theorem length_digitsOf_le {n : Nat} (hlimit : n < 2 ^ 1024) :
    (digitsOf n).length ≤ 400 := by
  rw [digitsOf, Nat.length_toDigits_le_iff (by decide) (by decide)]
  refine hlimit.trans_le ?_
  calc (2 : Nat) ^ 1024 ≤ 2 ^ (3 * 400) := pow_le_pow_right₀ one_le_two (by decide)
    _ = (2 ^ 3) ^ 400 := pow_mul 2 3 400
    _ ≤ 10 ^ 400 := pow_le_pow_left₀ (Nat.zero_le _) (by norm_num) 400

/-- What a whole number is read as, if it is not too large. -/
theorem exactValue?_toFloat {n : Nat} (hn : 0 < n) (hlimit : n < 2 ^ 1024 - 2 ^ 970) :
    exactValue? (toFloat n 0) = some (nearestWhole n : ℚ) := by
  have hlen := length_digitsOf_le (hlimit.trans_le (Nat.sub_le _ _))
  have hlt : (nearestWhole n : ℚ) < 2 ^ (1024 : Int) := by
    exact_mod_cast nearestWhole_lt_two_pow_1024 hlimit
  obtain ⟨m, e, hm, hunpack, -, hvalue⟩ := (holds_toFloat hn hlen).finite hlt
  rw [exactValue?, hunpack, unpackedValue?, hvalue]

/-- A whole number that is too large is read as an infinity. -/
theorem isInf_toFloat {n : Nat} (hn : 2 ^ 1024 - 2 ^ 970 ≤ n) : (toFloat n 0).isInf = true := by
  have hpowers : (2 : Nat) ^ 970 < 2 ^ 1024 := pow_lt_pow_right₀ one_lt_two (by decide)
  have hpos : 0 < n := by omega
  -- a numeral that is short enough is rounded past the bound, and a longer one is cut off
  obtain hlen | hlong := le_or_gt (digitsOf n).length 400
  · have hle : 2 ^ (1024 : Int) ≤ (nearestWhole n : ℚ) := by
      exact_mod_cast two_pow_1024_le_nearestWhole hn
    have hunpack := (holds_toFloat hpos hlen).infinite hle
    change (toFloat n 0).toModel.unpack.isInf = true
    rw [hunpack]
    rfl
  · exact isInf_toFloat_of_long hlong

/-- Is this the floating-point number that is nearest to a whole number? -/
structure IsNearest (m n : Nat) : Prop where
  isFloat : ∃ x, exactValue? x = some (m : ℚ)
  le_of_isFloat : ∀ x a, exactValue? x = some a → |(m : ℚ) - n| ≤ |a - n|

/-- Below the limit of doubles, `nearestWhole` gives the nearest one. -/
theorem isNearest_nearestWhole {n : Nat} (hlimit : n < 2 ^ 1024 - 2 ^ 970) :
    IsNearest (nearestWhole n) n where
  isFloat := by
    obtain rfl | hn := Nat.eq_zero_or_pos n
    · exact ⟨0, rfl⟩
    · exact ⟨toFloat n 0, exactValue?_toFloat hn hlimit⟩
  le_of_isFloat _ _ h := nearestWhole_le_of_isFloat n h

/-- Only what is a floating-point number itself is read exactly. -/
theorem IsNearest.eq_iff {m n : Nat} (h : IsNearest m n) :
    m = n ↔ ∃ x, exactValue? x = some (n : ℚ) := by
  constructor
  · rintro rfl
    exact h.isFloat
  · rintro ⟨x, hx⟩
    -- the distance to the number itself is zero
    have hnear := h.le_of_isFloat x n hx
    rw [sub_self, abs_zero, abs_nonpos_iff, sub_eq_zero] at hnear
    exact_mod_cast hnear

/-- Whole numbers up to `2 ^ 53` are doubles. -/
theorem nearestWhole_of_le {n : Nat} (hn : n ≤ 2 ^ 53) : nearestWhole n = n := by
  obtain hlt | rfl := hn.lt_or_eq
  · exact nearestWhole_of_lt hlt
  · decide +kernel

end SecretScan.Decimal
