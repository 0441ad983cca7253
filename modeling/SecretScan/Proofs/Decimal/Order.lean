import Mathlib

/-!
# The order of floating-point numbers

Numbers are compared by sign, then by exponent, then by mantissa; nothing compares with what is not
a number. `place?` puts a number where it belongs in that order.

## Key results

- `unpacked_lt_iff`: a number is less than another if its place comes first
- `unpacked_le_iff`: it is no more than another if its place does not come later
- `float_lt_of_lt_of_le`: the order is transitive
-/

namespace SecretScan.Decimal

open Float.Model

/-- The place of a number among all numbers: its side of zero, its exponent and its mantissa. -/
def place? : UnpackedFloat → Option (ℤ ×ₗ ℤ ×ₗ ℤ)
  | .notANumber => none
  | .infinity .negative => some (toLex (-2, toLex (0, 0)))
  | .finite .negative m e _ => some (toLex (-1, toLex (-e, -m)))
  | .zero _ => some (toLex (0, toLex (0, 0)))
  | .finite .positive m e _ => some (toLex (1, toLex (e, m)))
  | .infinity .positive => some (toLex (2, toLex (0, 0)))

/-- The order of exponents and mantissas is that of pairs. -/
private theorem compare_then_eq_lt_iff {e e' : Int} {m m' : Nat} :
    (compare e e').then (compare m m') = .lt ↔ e < e' ∨ e = e' ∧ m < m' := by
  rw [Ordering.then_eq_lt, compare_lt_iff_lt, compare_eq_iff_eq, compare_lt_iff_lt]

/-- When one pair of numbers comes after another. -/
private theorem compare_then_eq_gt_iff {e e' : Int} {m m' : Nat} :
    (compare e e').then (compare m m') = .gt ↔ e' < e ∨ e = e' ∧ m' < m := by
  rw [Ordering.then_eq_gt, compare_gt_iff_gt, compare_eq_iff_eq, compare_gt_iff_gt]

/-- A number is less than another if its place comes first. -/
theorem unpacked_lt_iff (a b : UnpackedFloat) :
    a.lt b = true ↔ ∃ p ∈ place? a, ∃ q ∈ place? b, p < q := by
  -- only two finite numbers of one sign are compared by more than their sides of zero
  rcases a with (_ | _) | _ | s | ⟨_ | _, m, e, hm⟩ <;>
    rcases b with (_ | _) | _ | s' | ⟨_ | _, m', e', hm'⟩ <;>
    simp [UnpackedFloat.lt, UnpackedFloat.compare, place?, Prod.Lex.toLex_lt_toLex,
      compare_then_eq_lt_iff, compare_then_eq_gt_iff]
  -- the two infinities
  rfl

/-- Two numbers are equal if they are at the same place. -/
private theorem unpacked_compare_eq_iff (a b : UnpackedFloat) :
    a.compare b = some .eq ↔ ∃ p ∈ place? a, ∃ q ∈ place? b, p = q := by
  rcases a with (_ | _) | _ | s | ⟨_ | _, m, e, hm⟩ <;>
    rcases b with (_ | _) | _ | s' | ⟨_ | _, m', e', hm'⟩ <;>
    simp [UnpackedFloat.compare, place?]
  -- the two infinities, and finite numbers of one sign
  · rfl
  · rfl
  · exact and_congr eq_comm eq_comm
  · exact and_congr eq_comm eq_comm

/-- The order of unpacked floats is that of their places on the number line. -/
theorem unpacked_le_iff (a b : UnpackedFloat) :
    a.le b = true ↔ ∃ p ∈ place? a, ∃ q ∈ place? b, p ≤ q := by
  -- below or at the same place
  have hle : a.le b = true ↔ a.lt b = true ∨ a.compare b = some .eq := by
    unfold UnpackedFloat.le UnpackedFloat.lt
    cases a.compare b with
    | none => simp
    | some o => cases o <;> simp
  rw [hle, unpacked_lt_iff, unpacked_compare_eq_iff]
  simp only [le_iff_lt_or_eq, and_or_left, exists_or]

/-! ## Floating-point numbers -/

/-- A float is less than another if both have places, and in this order. -/
private theorem float_lt_iff {a b : Float} :
    a < b ↔ ∃ p ∈ place? a.toModel.unpack, ∃ q ∈ place? b.toModel.unpack, p < q := by
  rw [← unpacked_lt_iff]
  show a.lt b = true ↔ _
  exact decide_eq_true_iff

/-- A float is at most another if both have places, in this order or the same. -/
private theorem float_le_iff {a b : Float} :
    a ≤ b ↔ ∃ p ∈ place? a.toModel.unpack, ∃ q ∈ place? b.toModel.unpack, p ≤ q := by
  rw [← unpacked_le_iff]
  show a.le b = true ↔ _
  exact decide_eq_true_iff

/-- What is below a number is below every number that is not less. -/
theorem float_lt_of_lt_of_le {a b c : Float} (hab : a < b) (hbc : b ≤ c) : a < c := by
  rw [float_lt_iff] at hab ⊢
  rw [float_le_iff] at hbc
  obtain ⟨p, hp, q, hq, hpq⟩ := hab
  obtain ⟨q', hq', r, hr, hqr⟩ := hbc
  obtain rfl : q = q' := Option.some.inj (hq.symm.trans hq')
  exact ⟨p, hp, r, hr, lt_of_lt_of_le hpq hqr⟩

end SecretScan.Decimal
