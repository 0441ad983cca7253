import Mathlib
import SecretScan.Decimal.Reading

/-!
# Numerals of whole numbers

A whole number that is written with its decimal digits, and nothing else, is read digit by digit.

Main result: `readNumber?_digitsOf`.
-/

namespace SecretScan.Decimal

open SecretScan.Text

/-- The code points of the digits. -/
theorem toNat_of_isDigit {c : Char} (h : c.isDigit = true) : 48 ≤ c.toNat ∧ c.toNat ≤ 57 := by
  simp only [Char.isDigit, Bool.and_eq_true, decide_eq_true_eq] at h
  exact ⟨UInt32.le_iff_toNat_le.1 h.1, UInt32.le_iff_toNat_le.1 h.2⟩

/-- A digit is none of the signs of a numeral. -/
private theorem ne_of_isDigit {c d : Char} (hc : c.isDigit = true) (hd : d.isDigit = false) :
    c ≠ d := by
  rintro rfl
  exact nomatch hc.symm.trans hd

/-- A plain digit is its own plain form. -/
private theorem plainChar_of_isDigit {c : Char} (h : c.isDigit = true) : plainChar c = c := by
  have := toNat_of_isDigit h
  exact if_pos (by omega)

private theorem isAsciiBlank_of_isDigit {c : Char} (h : c.isDigit = true) :
    isAsciiBlank c = false := by
  have hc := toNat_of_isDigit h
  have hspace := ne_of_isDigit h (d := ' ') rfl
  simp [isAsciiBlank, hspace]
  omega

private theorem toLower_of_isDigit {c : Char} (h : c.isDigit = true) : c.toLower = c := by
  refine Char.toLower_eq_of_not_isUpper fun hupper => ?_
  simp only [Char.isUpper, decide_eq_true_eq] at hupper
  have hletter : 65 ≤ c.toNat := UInt32.le_iff_toNat_le.1 hupper.1
  have := toNat_of_isDigit h
  omega

section Digits

variable {ds : List Char}

private theorem trimmed_of_digits (h : ∀ c ∈ ds, c.isDigit = true) : trimmed ds = ds := by
  -- digits are their own plain form, and none of them is blank
  have hplain : ds.map plainChar = ds := by
    conv_rhs => rw [← List.map_id ds]
    exact List.map_congr_left fun c hc => plainChar_of_isDigit (h c hc)
  have hkeep : ∀ cs : List Char, (∀ c ∈ cs, c.isDigit = true) → cs.dropWhile isAsciiBlank = cs := by
    intro cs hcs
    refine List.dropWhile_eq_self_iff.2 fun hlen => ?_
    rw [isAsciiBlank_of_isDigit (hcs _ (List.getElem_mem hlen))]
    exact Bool.false_ne_true
  rw [trimmed, hplain, hkeep ds h, hkeep ds.reverse (by simpa using h), List.reverse_reverse]

/-- Digits hold no underscores to be dropped. -/
private theorem withoutUnderscores_of_digits (h : ∀ c ∈ ds, c.isDigit = true) {before : Option Char}
    (hbefore : before ≠ some '_') : withoutUnderscores before ds = some ds := by
  induction ds generalizing before with
  | nil => simp [withoutUnderscores, hbefore]
  | cons c ds ih =>
    rw [List.forall_mem_cons] at h
    -- digits come after each other without an underscore between them
    have hc := ne_of_isDigit h.1 (d := '_') rfl
    rw [withoutUnderscores, if_neg (fun hb => hbefore hb.1), ih h.2 (by simpa using hc)]
    · rfl
    · exact fun hu => hc hu

/-- Digits begin with no sign. -/
private theorem signOf_of_digits (h : ∀ c ∈ ds, c.isDigit = true) : signOf ds = (false, ds) := by
  unfold signOf
  split
  · exact nomatch h '-' List.mem_cons_self
  · exact nomatch h '+' List.mem_cons_self
  · rfl

/-- Digits are no word. -/
private theorem ofList_digits_ne (h : ∀ c ∈ ds, c.isDigit = true) (word : String)
    (hword : ∃ c ∈ word.toList, c.isDigit = false) : String.ofList ds ≠ word := by
  rintro rfl
  obtain ⟨c, hc, hdigit⟩ := hword
  rw [String.toList_ofList] at hc
  exact nomatch (h c hc).symm.trans hdigit

/-- Digits are read as the double of their value. -/
private theorem unsignedNumber?_of_digits (h : ∀ c ∈ ds, c.isDigit = true) (hne : ds ≠ []) :
    unsignedNumber? ds = some (toFloat (digitsValue ds) 0) := by
  have hwhole : ds.takeWhile Char.isDigit = ds := List.takeWhile_eq_self_iff.2 h
  have hrest : ds.dropWhile Char.isDigit = [] := List.dropWhile_eq_nil_iff.2 h
  simp [unsignedNumber?, hwhole, hrest, hne, exponentOf]

/-- A numeral of digits alone is read as the double of its value. -/
private theorem readNumber?_of_digits (h : ∀ c ∈ ds, c.isDigit = true) (hne : ds ≠ []) :
    readNumber? ds = some (toFloat (digitsValue ds) 0) := by
  have hlower : ds.map Char.toLower = ds := by
    conv_rhs => rw [← List.map_id ds]
    exact List.map_congr_left fun c hc => toLower_of_isDigit (h c hc)
  have hword := fun word => ofList_digits_ne h word
  simp [readNumber?, trimmed_of_digits h, withoutUnderscores_of_digits h, signOf_of_digits h,
    hlower, hword, unsignedNumber?_of_digits h hne]

end Digits

/-- A whole number is written in digits. -/
private theorem isDigit_of_mem_digitsOf {n : Nat} : ∀ c ∈ digitsOf n, c.isDigit = true :=
  fun _ => Nat.isDigit_of_mem_toDigits (by decide) (by decide)

/-- The digits of a number have that number as their value. -/
private theorem digitsValue_digitsOf (n : Nat) : digitsValue (digitsOf n) = n :=
  Nat.ofDigitChars_ten_toDigits

/-- A whole number is read back from its digits. -/
theorem readNumber?_digitsOf (n : Nat) : readNumber? (digitsOf n) = some (toFloat n 0) := by
  rw [readNumber?_of_digits isDigit_of_mem_digitsOf Nat.toDigits_ne_nil, digitsValue_digitsOf]

end SecretScan.Decimal
