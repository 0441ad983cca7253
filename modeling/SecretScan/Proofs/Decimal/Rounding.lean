import SecretScan.Proofs.Decimal.Exact

/-!
# Rounding to floating-point numbers

A product of floating-point numbers, and a whole number that is read as one, is an exact mantissa of
which as many digits are shifted out as are too many. The digits that were shifted out are kept as
two bits, which tell whether what they stood for is less or more than a half.

## Key results

- `StandsFor.shiftRight`: what is left of a mantissa, and of its digits, when digits are shifted out
- `StandsFor.roundedMantissa_eq`: rounding by the two bits is rounding the quotient
- `exists_roundWithAccuracy_eq`: an exact mantissa is rounded to 53 digits
- `unpack_pack_of_log2`, `unpack_pack_of_large`: what is packed can be unpacked, up to the largest
  number
- `exactValue?_mul_nonneg`: a product of numbers that are not below zero is not below zero
- `holds_unpack_pack_roundWithAccuracy`: an exact mantissa is packed as the number it is rounded to
-/

namespace SecretScan.Decimal

open Float.Model Float.Model.UnpackedFloat

/-! ## Shifting out digits -/

/-- Does a mantissa, with the two bits for the digits after it, stand for a quotient? -/
structure StandsFor (em : ExtendedMantissa) (n d : Nat) : Prop where
  mantissa_eq : em.mantissa = n / d
  accuracy_eq : em.accuracy = accuracyOfFraction (n % d) d

/-- A mantissa without a remainder stands for itself. -/
private theorem standsFor_exact (n : Nat) :
    StandsFor (ExtendedMantissa.ofMantissaAndAccuracy n .exact) n 1 := by
  refine ⟨(Nat.div_one n).symm, ?_⟩
  rw [Nat.mod_one]
  rfl

/-- Nothing has been cut off if neither bit says so. -/
private theorem accuracy_eq_exact_iff (em : ExtendedMantissa) :
    em.accuracy = .exact ↔ (em.roundBit || em.stickyBit) = false := by
  obtain ⟨m, r, s⟩ := em
  cases r <;> cases s <;> simp [ExtendedMantissa.accuracy]

/-- A division is exact if nothing remains. -/
private theorem accuracyOfFraction_eq_exact_iff (r d : Nat) :
    accuracyOfFraction r d = .exact ↔ r = 0 := by
  unfold accuracyOfFraction
  split <;> simp [*]

/-- A shift by one bit halves what a mantissa stands for: the bits cut off are remembered by the
round bit and the sticky bit. -/
theorem StandsFor.shiftRightOne {em : ExtendedMantissa} {n d : Nat} (h : StandsFor em n d)
    (hd : 0 < d) : StandsFor em.shiftRightOne n (2 * d) := by
  have hrest : n % (2 * d) = n % d + d * (n / d % 2) := by
    rw [Nat.mul_comm 2 d, Nat.mod_mul]
  have hlt := Nat.mod_lt n hd
  have hsticky : (em.roundBit || em.stickyBit) = false ↔ n % d = 0 := by
    rw [← accuracy_eq_exact_iff, h.accuracy_eq, accuracyOfFraction_eq_exact_iff]
  refine ⟨?_, ?_⟩
  · rw [ExtendedMantissa.shiftRightOne, h.mantissa_eq, Nat.div_div_eq_div_mul, Nat.mul_comm]
  · rw [hrest, ExtendedMantissa.shiftRightOne, h.mantissa_eq, accuracyOfFraction]
    -- the last digit tells whether a half is reached, the older bits whether more is left
    obtain hdigit | hdigit := Nat.mod_two_eq_zero_or_one (n / d) <;>
      cases hbits : em.roundBit || em.stickyBit <;> rw [hbits] at hsticky <;>
      simp only [hdigit, mul_zero, mul_one, Nat.add_zero]
    · rw [if_pos (hsticky.1 rfl)]
      rfl
    · have hleft : n % d ≠ 0 := fun hzero => nomatch hsticky.2 hzero
      rw [if_neg hleft, Nat.compare_eq_lt.2 (by omega)]
      rfl
    · rw [hsticky.1 rfl, Nat.zero_add, if_neg hd.ne', Nat.compare_eq_eq.2 rfl]
      rfl
    · have hleft : n % d ≠ 0 := fun hzero => nomatch hsticky.2 hzero
      rw [if_neg (by omega), Nat.compare_eq_gt.2 (by omega)]
      rfl

/-- Shifts by more bits are as many shifts by one. -/
theorem StandsFor.shiftRight {em : ExtendedMantissa} {n d : Nat} (h : StandsFor em n d)
    (hd : 0 < d) (k : Nat) : StandsFor (em >>> k) n (2 ^ k * d) := by
  change StandsFor (k.repeat ExtendedMantissa.shiftRightOne em) n (2 ^ k * d)
  induction k with
  | zero => rwa [pow_zero, Nat.one_mul]
  | succ k ih =>
    rw [pow_succ', Nat.mul_assoc]
    exact ih.shiftRightOne (Nat.mul_pos (Nat.two_pow_pos k) hd)

/-- Rounding by the two bits is rounding the quotient. -/
theorem StandsFor.roundedMantissa_eq {em : ExtendedMantissa} {n d : Nat} (h : StandsFor em n d) :
    em.roundedMantissa = roundedQuotient n d := by
  rw [ExtendedMantissa.roundedMantissa, h.mantissa_eq, h.accuracy_eq, accuracyOfFraction,
    roundedQuotient]
  -- what remains is compared with half of the divisor
  obtain hzero | hleft := eq_or_ne (n % d) 0
  · rw [if_pos hzero, hzero]
    obtain rfl | hd := Nat.eq_zero_or_pos d
    · simp [Accuracy.roundToNearestEven]
    · rw [if_pos (by omega)]
      rfl
  · rw [if_neg hleft]
    obtain hlt | heq | hgt := lt_trichotomy (2 * (n % d)) d
    · rw [Nat.compare_eq_lt.2 hlt, if_pos hlt]
      rfl
    · rw [Nat.compare_eq_eq.2 heq, heq, if_neg (lt_irrefl d), if_neg (lt_irrefl d)]
      obtain hdigit | hdigit := Nat.mod_two_eq_zero_or_one (n / d) <;>
        simp [Accuracy.roundToNearestEven, hdigit]
    · rw [Nat.compare_eq_gt.2 hgt, if_neg hgt.not_gt, if_pos hgt]
      rfl

/-! ## Rounding to 53 digits -/

/-- The exponent that leaves 53 bits, unless the number is too small for so many. -/
theorem targetExponent_totalExponent (m : Nat) (e : Int) :
    Format.binary64.targetExponent (totalExponent m e) = max (m.log2 + e - 52) (-1074) := by
  have hdigits : Format.binary64.mantissaBits = 53 := rfl
  have hmin : Format.binary64.minExponent = -1074 := rfl
  rw [Format.targetExponent, totalExponent, hdigits, hmin]
  congr 1
  push_cast
  omega

/-- As many digits are shifted out as there are more than 53. -/
theorem shiftToTargetExponent_eq {m k : Nat} {e : Int}
    (hk : (max ((m.log2 : Int) + e - 52) (-1074) - e).toNat = k) :
    shiftToTargetExponent Format.binary64 m e .exact =
      (ExtendedMantissa.ofMantissaAndAccuracy m .exact >>> k, e + k) := by
  subst hk
  rw [← targetExponent_totalExponent]
  rfl

/-- A mantissa of 53 bits stays where it is. -/
private theorem shiftToTargetExponent_of_log2 {m : Nat} {e : Int} (hm : m.log2 = 52)
    (he : -1074 ≤ e) :
    shiftToTargetExponent Format.binary64 m e .exact = (⟨m, false, false⟩, e) := by
  rw [shiftToTargetExponent_eq (k := 0) (by omega)]
  exact Prod.ext rfl (Int.add_zero e)

/-- When the digits carry, the last one is shifted out again. -/
private theorem shiftToTargetExponent_carry {e : Int} (he : -1074 ≤ e) :
    shiftToTargetExponent Format.binary64 (2 ^ 53) e .exact =
      (⟨2 ^ 53 / 2, false, false⟩, e + 1) := by
  have hlog : ((2 ^ 53 : Nat).log2 : Int) = 53 := congrArg Nat.cast Nat.log2_two_pow
  rw [shiftToTargetExponent_eq (k := 1) (by omega)]
  exact Prod.ext (by simp [HShiftRight.hShiftRight, Nat.repeat,
    ExtendedMantissa.ofMantissaAndAccuracy, ExtendedMantissa.shiftRightOne]) rfl

/-- Rounding goes to one of the two neighbours. -/
private theorem roundedQuotient_bounds (n d : Nat) :
    n / d ≤ roundedQuotient n d ∧ roundedQuotient n d ≤ n / d + 1 := by
  unfold roundedQuotient
  dsimp only
  split_ifs <;> omega

/-- With all digits but 53 shifted out, 53 are left, or one more is carried. -/
theorem roundedQuotient_log2_bounds {m : Nat} (hm : 52 ≤ m.log2) :
    2 ^ 52 ≤ roundedQuotient m (2 ^ (m.log2 - 52)) ∧
      roundedQuotient m (2 ^ (m.log2 - 52)) ≤ 2 ^ 53 := by
  have hpos : m ≠ 0 := by
    rintro rfl
    exact absurd hm (by decide)
  obtain ⟨hlow, hhigh⟩ := roundedQuotient_bounds m (2 ^ (m.log2 - 52))
  -- the bits before the point are 53
  have hdiv : 2 ^ 52 ≤ m / 2 ^ (m.log2 - 52) := by
    rw [Nat.le_div_iff_mul_le (Nat.two_pow_pos _), ← pow_add, Nat.add_sub_cancel' hm]
    exact Nat.log2_self_le hpos
  have hdiv' : m / 2 ^ (m.log2 - 52) < 2 ^ 53 := by
    rw [Nat.div_lt_iff_lt_mul (Nat.two_pow_pos _), ← pow_add]
    refine lt_of_lt_of_eq Nat.lt_log2_self ?_
    congr 1
    omega
  omega

/-- An exact mantissa is rounded to 53 digits; when they carry, the exponent is one more. -/
theorem exists_roundWithAccuracy_eq (s : Sign) {m : Nat} {e : Int} (hm : 52 ≤ m.log2)
    (he : -1074 ≤ m.log2 + e - 52) :
    ∃ r e' hr, roundWithAccuracy Format.binary64 s m e .exact = .finite s r e' hr ∧
      r.log2 = 52 ∧
      ((roundedQuotient m (2 ^ (m.log2 - 52)) = r ∧ e' = m.log2 + e - 52) ∨
        (roundedQuotient m (2 ^ (m.log2 - 52)) = 2 * r ∧ e' = m.log2 + e - 52 + 1)) := by
  -- the mantissa is cut to 53 bits and rounded
  obtain ⟨hlow, hhigh⟩ := roundedQuotient_log2_bounds hm
  have hrounded := ((standsFor_exact m).shiftRight Nat.one_pos (m.log2 - 52)).roundedMantissa_eq
  rw [Nat.mul_one] at hrounded
  have hexponent : e + ((m.log2 - 52 : Nat) : Int) = m.log2 + e - 52 := by omega
  rw [roundWithAccuracy, shiftToTargetExponent_eq (k := m.log2 - 52) (by omega)]
  dsimp only
  rw [hrounded, hexponent]
  generalize roundedQuotient m (2 ^ (m.log2 - 52)) = rounded at hlow hhigh ⊢
  -- rounding up may carry into one bit more, which is shifted out
  obtain hlt | hcarry := hhigh.lt_or_eq
  · have hpos : rounded ≠ 0 := by omega
    have hlog := (Nat.log2_eq_iff hpos).2 ⟨hlow, hlt⟩
    rw [shiftToTargetExponent_of_log2 hlog he, dif_neg hpos]
    exact ⟨_, _, _, rfl, hlog, .inl ⟨rfl, rfl⟩⟩
  · have hhalf : (2 ^ 53 / 2 : Nat) = 2 ^ 52 := by norm_num
    rw [hcarry, shiftToTargetExponent_carry he, hhalf]
    exact ⟨2 ^ 52, _, by positivity, dif_neg (by positivity), Nat.log2_two_pow,
      .inr ⟨by norm_num, rfl⟩⟩

/-! ## Packing what was rounded -/

/-- Packing a finite float keeps its sign. -/
private theorem unpackSign_pack_finite (s : Sign) (m : Nat) (e : Int) (hm : 0 < m) :
    unpackSign (UnpackedFloat.pack Format.binary64 (.finite s m e hm)) = s.toBitVec := by
  unfold UnpackedFloat.pack
  dsimp only
  split_ifs <;> exact unpackSign_packComponents s _ _

/-- A packed exponent between the two that are reserved is unpacked as it is. -/
private theorem unpack_packComponents (s : Sign) {b m : Nat} (hb : 0 < b) (hb' : b < 2047)
    (hm : m < 2 ^ 52) :
    UnpackedFloat.unpack Format.binary64
        (packComponents Format.binary64 s (BitVec.ofNat 11 b) (BitVec.ofNat 52 m)) =
      .finite s (m + 2 ^ 52) (b - 1075) (by omega) := by
  -- the fields are cut out as they were put together
  have hexponent : (BitVec.ofNat 11 b).toNat = b := Nat.mod_eq_of_lt (by omega)
  have hmantissa : (1#1 ++ BitVec.ofNat 52 m).toNat = m + 2 ^ 52 := by
    rw [toNat_one_append, BitVec.toNat_ofNat, Nat.mod_eq_of_lt hm]
  have htop : BitVec.ofNat 11 b ≠ -1#11 := by
    refine fun h => hb'.ne ?_
    rw [← hexponent, h]
    rfl
  have hbottom : BitVec.ofNat 11 b ≠ 0#11 := by
    refine fun h => hb.ne' ?_
    rw [← hexponent, h]
    rfl
  unfold UnpackedFloat.unpack
  simp only [unpackSign_packComponents, unpackExponent_packComponents,
    unpackMantissa_packComponents, Sign.ofBitVec_toBitVec]
  rw [if_neg htop, if_neg hbottom]
  congr 1
  rw [hexponent]
  rfl

/-- A float with 53 bits and an exponent in range is packed as it is. -/
theorem unpack_pack_of_log2 (s : Sign) {m : Nat} {e : Int} (hm : 0 < m) (hlog : m.log2 = 52)
    (hlow : -1074 ≤ e) (hhigh : e ≤ 971) :
    UnpackedFloat.unpack Format.binary64 (UnpackedFloat.pack Format.binary64 (.finite s m e hm)) =
      .finite s m e hm := by
  have hbounds := (Nat.log2_eq_iff hm.ne').1 hlog
  -- the field of the exponent holds it with its bias, and the top bit of the mantissa is left
  -- out
  have hfield : (e + Format.binary64.exponentBias +
      Format.binary64.mantissaBitsWithoutImplicit).toNat = (e + 1075).toNat := by
    change (e + (1023 : Nat) + (52 : Nat)).toNat = (e + 1075).toNat
    omega
  have hmod : BitVec.ofNat 52 m = BitVec.ofNat 52 (m - 2 ^ 52) := by
    refine BitVec.eq_of_toNat_eq ?_
    rw [BitVec.toNat_ofNat, BitVec.toNat_ofNat, Nat.mod_eq_of_lt (by omega : m - 2 ^ 52 < 2 ^ 52)]
    omega
  have hpack : UnpackedFloat.pack Format.binary64 (.finite s m e hm) =
      packComponents Format.binary64 s (BitVec.ofNat 11 (e + 1075).toNat)
        (BitVec.ofNat 52 (m - 2 ^ 52)) := by
    unfold UnpackedFloat.pack
    dsimp only
    rw [hfield, if_neg (by omega), if_pos (by rw [hlog]; rfl), hmod]
  -- packed like this it is unpacked to what it was
  rw [hpack, unpack_packComponents s (by omega) (by omega) (by omega)]
  congr 1
  · omega
  · omega

/-- A number whose exponent is too large becomes an infinity. -/
theorem unpack_pack_of_large (s : Sign) {m : Nat} {e : Int} (hm : 0 < m) (he : 971 < e) :
    UnpackedFloat.unpack Format.binary64 (UnpackedFloat.pack Format.binary64 (.finite s m e hm)) =
      .infinity s := by
  -- the exponent does not fit into its field
  have hpack : UnpackedFloat.pack Format.binary64 (.finite s m e hm) =
      packedInfinity Format.binary64 s := by
    refine if_pos ?_
    change 2 ^ 11 ≤ (e + (1023 : Nat) + (52 : Nat)).toNat + 1
    omega
  rw [hpack]
  cases s <;> rfl

/-! ## Signs -/

/-- Rounding keeps the sign. -/
private theorem unpackSign_pack_roundWithAccuracy (s : Sign) (m : Nat) (e : Int)
    (accuracy : Accuracy) :
    unpackSign (UnpackedFloat.pack Format.binary64
      (roundWithAccuracy Format.binary64 s m e accuracy)) = s.toBitVec := by
  unfold roundWithAccuracy
  dsimp only
  -- an infinity and a number are packed with the sign they have
  split_ifs
  · exact unpackSign_packComponents s _ _
  · exact unpackSign_pack_finite s _ _ _

/-- Floats with a positive sign stand for no negative numbers. -/
private theorem unpackedValue?_nonneg {b : BitVec Format.binary64.numBits}
    (hsign : unpackSign b = Sign.positive.toBitVec) {a : ℚ}
    (ha : unpackedValue? (UnpackedFloat.unpack Format.binary64 b) = some a) : 0 ≤ a := by
  unfold UnpackedFloat.unpack at ha
  simp only [hsign, Sign.ofBitVec_toBitVec] at ha
  split_ifs at ha <;> cases ha <;> positivity

/-- What is finite and not below zero is zero, or a positive number. -/
theorem eq_zero_or_positive {u : UnpackedFloat} {a : ℚ} (hu : unpackedValue? u = some a)
    (ha : 0 ≤ a) : (∃ s, u = .zero s) ∨ ∃ m e hm, u = .finite .positive m e hm := by
  cases u with
  | infinity | notANumber => exact nomatch hu
  | zero s => exact .inl ⟨s, rfl⟩
  | finite s m e hm =>
    -- a negative number is below zero
    cases s with
    | positive => exact .inr ⟨m, e, hm, rfl⟩
    | negative =>
      obtain rfl := Option.some.inj hu
      have hpos : (0 : ℚ) < m * 2 ^ e := by positivity
      linarith

/-- A product of numbers that are not below zero is not below zero. -/
theorem exactValue?_mul_nonneg {x y : Float} {a b c : ℚ} (hx : exactValue? x = some a)
    (hy : exactValue? y = some b) (ha : 0 ≤ a) (hb : 0 ≤ b) (hc : exactValue? (x * y) = some c) :
    0 ≤ c := by
  have hmul : exactValue? (x * y) = unpackedValue? (UnpackedFloat.unpack Format.binary64
      (UnpackedFloat.pack Format.binary64
        (UnpackedFloat.mul Format.binary64 x.toModel.unpack y.toModel.unpack))) := rfl
  have hzero : ∀ s, unpackedValue? (UnpackedFloat.unpack Format.binary64
      (UnpackedFloat.pack Format.binary64 (.zero s))) = some 0 := by
    intro s
    cases s <;> rfl
  rw [hmul] at hc
  -- zeros and positive numbers, four cases; a product with a zero is a zero
  obtain ⟨s, hs⟩ | ⟨m, e, hm, hfinite⟩ := eq_zero_or_positive hx ha
  · obtain ⟨s', hs'⟩ | ⟨m', e', hm', hfinite'⟩ := eq_zero_or_positive hy hb
    · rw [hs, hs'] at hc
      exact (Option.some.inj ((hzero _).symm.trans hc)).le
    · rw [hs, hfinite'] at hc
      exact (Option.some.inj ((hzero _).symm.trans hc)).le
  · obtain ⟨s', hs'⟩ | ⟨m', e', hm', hfinite'⟩ := eq_zero_or_positive hy hb
    · rw [hfinite, hs'] at hc
      exact (Option.some.inj ((hzero _).symm.trans hc)).le
    · rw [hfinite, hfinite'] at hc
      exact unpackedValue?_nonneg (unpackSign_pack_roundWithAccuracy .positive _ _ _) hc

/-! ## The value of what was rounded -/

/-- A number lies between the powers of two that its length tells. -/
theorem two_zpow_le_of_log2 {m : Nat} (hm : 0 < m) (e : Int) :
    (2 : ℚ) ^ (m.log2 + e) ≤ m * 2 ^ e ∧ (m : ℚ) * 2 ^ e < 2 ^ (m.log2 + e + 1) := by
  have htwo : (2 : ℚ) ≠ 0 := two_ne_zero
  have hpos : (0 : ℚ) < 2 ^ e := zpow_pos two_pos e
  -- the power is taken out on both sides
  rw [add_right_comm, zpow_add₀ htwo, zpow_add₀ htwo (_ + 1)]
  constructor
  · refine mul_le_mul_of_nonneg_right ?_ hpos.le
    exact_mod_cast Nat.log2_self_le hm.ne'
  · refine mul_lt_mul_of_pos_right ?_ hpos
    exact_mod_cast Nat.lt_log2_self

/-- Is this a positive number of 53 digits, or an infinity because the number is too large? -/
structure Holds (u : UnpackedFloat) (a : ℚ) : Prop where
  finite : a < 2 ^ (1024 : Int) →
    ∃ m e hm, u = .finite .positive m e hm ∧ m.log2 = 52 ∧ (m : ℚ) * 2 ^ e = a
  infinite : 2 ^ (1024 : Int) ≤ a → u = .infinity .positive

/-- An exact mantissa is packed as the number that its first 53 digits are rounded to. -/
theorem holds_unpack_pack_roundWithAccuracy {m : Nat} {e : Int} {a : ℚ} (hm : 52 ≤ m.log2)
    (he : -1074 ≤ m.log2 + e - 52)
    (ha : (roundedQuotient m (2 ^ (m.log2 - 52)) : ℚ) * 2 ^ (m.log2 + e - 52) = a) :
    Holds (UnpackedFloat.unpack Format.binary64 (UnpackedFloat.pack Format.binary64
      (roundWithAccuracy Format.binary64 .positive m e .exact))) a := by
  obtain ⟨r, e', hr, hround, hlog, hcarry⟩ := exists_roundWithAccuracy_eq .positive hm he
  -- a carry moves a digit from the mantissa to the exponent
  have hvalue : (r : ℚ) * 2 ^ e' = a := by
    obtain ⟨hrounded, rfl⟩ | ⟨hrounded, rfl⟩ := hcarry
    · rw [← ha, hrounded]
    · rw [← ha, hrounded, zpow_add_one₀ two_ne_zero]
      push_cast
      ring
  obtain ⟨hlow, hhigh⟩ := two_zpow_le_of_log2 hr e'
  rw [hvalue, hlog] at hlow hhigh
  rw [hround]
  -- below the bound the exponent fits, and from the bound on it does not
  constructor
  · intro hlt
    have he' := (zpow_lt_zpow_iff_right₀ one_lt_two).1 (hlow.trans_lt hlt)
    exact ⟨r, e', hr, unpack_pack_of_log2 _ hr hlog (by omega) (by omega), hlog, hvalue⟩
  · intro hle
    have he' := (zpow_lt_zpow_iff_right₀ one_lt_two).1 (hle.trans_lt hhigh)
    exact unpack_pack_of_large _ hr (by omega)

end SecretScan.Decimal
