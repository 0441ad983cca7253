import Mathlib
import SecretScan.Pattern.CharSet

/-!
# Characters without case

When case is ignored a character counts as any of its relatives. White space, quotes and signs have
none but themselves, so a set of such characters is the same whether case counts or not.

## Key results

- `toNat_lowerChar_eq_iff`: nothing else has a character without case for its lower case
- `mem_relatives_iff`: nothing else is related to it
- `mem_lowered_iff`: a text in lower case has those of them that the text has
- `lists_of_isCaseless`: what is listed by such a character does not depend on case
-/

namespace SecretScan.Text

/-- Is a code point that of a character without case: no letter of ASCII, and neither in the table
of lower cases, on either side, nor in that of shared capitals? -/
structure IsCaseless (n : Nat) : Prop where
  pos : 0 < n
  not_upper : ¬ (65 ≤ n ∧ n ≤ 90)
  not_lower : ¬ (97 ≤ n ∧ n ≤ 122)
  not_mapped : ∀ r ∈ lowerRuns, r.covers n = false ∧ r.preimage? n = none
  not_shared : ∀ ns ∈ sharedCapitals, n ∉ ns

/-- What it takes for a code point to be the same in both cases. -/
private theorem isCaseless_iff {n : Nat} : IsCaseless n ↔
    0 < n ∧ ¬ (65 ≤ n ∧ n ≤ 90) ∧ ¬ (97 ≤ n ∧ n ≤ 122) ∧
      (∀ r ∈ lowerRuns, r.covers n = false ∧ r.preimage? n = none) ∧
      ∀ ns ∈ sharedCapitals, n ∉ ns :=
  ⟨fun h => ⟨h.pos, h.not_upper, h.not_lower, h.not_mapped, h.not_shared⟩,
    fun ⟨hpos, hupper, hlower, hmapped, hshared⟩ => ⟨hpos, hupper, hlower, hmapped, hshared⟩⟩

instance (n : Nat) : Decidable (IsCaseless n) :=
  decidable_of_iff' _ isCaseless_iff

/-! ## Lower case -/

/-- What is true of ASCII can be checked one character after the other. -/
@[elab_as_elim]
theorem ascii_cases {motive : Char → Prop} {c : Char} (h : c.toNat < 128)
    (hall : ∀ n < 128, motive (Char.ofNat n)) : motive c := by
  have hc := hall c.toNat h
  rwa [Char.ofNat_toNat] at hc

/-- In ASCII, only capital letters have another lower case. -/
private theorem toNat_toLower_of_ascii {c : Char} (h : c.toNat < 128) :
    c.toLower.toNat = if 65 ≤ c.toNat ∧ c.toNat ≤ 90 then c.toNat + 32 else c.toNat := by
  refine ascii_cases h ?_
  decide

/-- The ASCII letters. -/
private theorem letter_of_ascii {c : Char} (h : c.toNat < 128) :
    c.isAlpha = true → (65 ≤ c.toNat ∧ c.toNat ≤ 90) ∨ (97 ≤ c.toNat ∧ c.toNat ≤ 122) := by
  refine ascii_cases h ?_
  decide

/-- A code point that is made a character of is itself or zero. -/
private theorem toNat_ofNat_eq (n : Nat) : (Char.ofNat n).toNat = n ∨ (Char.ofNat n).toNat = 0 := by
  unfold Char.ofNat
  split
  · exact .inl rfl
  · exact .inr rfl

section

variable {n : Nat} (h : IsCaseless n)

include h

/-- What a run maps is mapped to something with a preimage. -/
private theorem image_ne_of_isCaseless {r : CaseRun} (hr : r ∈ lowerRuns) {m : Nat}
    (hcovers : r.covers m = true) : r.image m ≠ n := by
  intro himage
  have hnone := (h.not_mapped r hr).2
  have hpos := h.pos
  -- the way back from the image leads to where it came from
  have hback : ((n : Int) - r.shift).toNat = m := by
    unfold CaseRun.image at himage
    omega
  unfold CaseRun.preimage? at hnone
  simp only [hback, hcovers, himage, Bool.true_and, beq_self_eq_true, if_true] at hnone
  exact nomatch hnone

/-- Nothing else has a character without case for its lower case. -/
theorem toNat_lowerChar_eq_iff {c : Char} : (lowerChar c).toNat = n ↔ c.toNat = n := by
  unfold lowerChar
  split
  · -- among the first characters the capitals alone change
    next hascii =>
    have hupper := h.not_upper
    have hlower := h.not_lower
    rw [toNat_toLower_of_ascii hascii]
    split
    · omega
    · exact Iff.rfl
  · -- a later character is changed by its range, or stays as it is
    next hlarge =>
    split
    · next r hr =>
      obtain ⟨hcovers, hmem⟩ := And.intro (List.find?_some hr) (List.mem_of_find?_eq_some hr)
      refine iff_of_false (fun hlow => ?_) fun hc => ?_
      · -- the image is a character, as it is not zero
        have hpos := h.pos
        have himage := image_ne_of_isCaseless h hmem hcovers
        obtain heq | heq := toNat_ofNat_eq (r.image c.toNat) <;> omega
      · have hnot := (h.not_mapped r hmem).1
        rw [← hc, hcovers] at hnot
        exact nomatch hnot
    · exact Iff.rfl

/-! ## Relatives -/

/-- A code point without case is no capital of another one. -/
private theorem not_mem_capitalsOf (m : Nat) : n ∉ capitalsOf m := by
  intro hmem
  obtain hascii | hrun := List.mem_append.1 hmem
  · split at hascii
    · next hm =>
      simp only [Bool.and_eq_true, decide_eq_true_eq] at hm
      have hupper := h.not_upper
      have heq := List.mem_singleton.1 hascii
      omega
    · exact nomatch hascii
  · obtain ⟨r, hr, hpre⟩ := List.mem_filterMap.1 hrun
    -- a preimage is covered by its run
    unfold CaseRun.preimage? at hpre
    simp only at hpre
    split at hpre
    · next hcovers =>
      obtain rfl := Option.some.inj hpre
      have hnot := (h.not_mapped r hr).1
      rw [hnot, Bool.false_and] at hcovers
      exact nomatch hcovers
    · exact nomatch hpre

/-- Only a code point without case becomes itself in lower case. -/
private theorem mem_lowerFamily_iff {m : Nat} : n ∈ lowerFamily m ↔ m = n := by
  unfold lowerFamily
  split
  · next ns hns =>
    -- no family of several holds the letter, so that it is alone in its own
    have hshared := h.not_shared ns (List.mem_of_find?_eq_some hns)
    refine List.mem_cons.trans ⟨fun hmem => ?_, fun heq => .inl heq.symm⟩
    obtain heq | hmem := hmem
    · exact heq.symm
    · exact absurd (List.mem_filter.1 hmem).1 hshared
  · exact List.mem_singleton.trans eq_comm

/-- The family of a code point without case is itself. -/
private theorem mem_familyOf_iff {m : Nat} : n ∈ familyOf m ↔ m = n := by
  unfold familyOf
  rw [List.mem_flatMap]
  -- a relative is a lower form or one of its capitals
  constructor
  · rintro ⟨k, hk, hmem⟩
    obtain rfl | hmem := List.mem_cons.1 hmem
    · exact (mem_lowerFamily_iff h).1 hk
    · exact absurd hmem (not_mem_capitalsOf h k)
  · intro heq
    exact ⟨n, (mem_lowerFamily_iff h).2 heq, List.mem_cons_self⟩

/-- A code point without case is no foreign relative of a letter. -/
private theorem not_mem_foreignRelatives (m : Nat) : n ∉ foreignRelatives m := by
  have hcased : ∀ k ∈ [0x131, 0x130, 0x212A, 0x17F], ¬ IsCaseless k := by decide +kernel
  intro hmem
  refine hcased n ?_ h
  unfold foreignRelatives at hmem
  grind

/-- Nothing else is related to a character without case. -/
theorem mem_relatives_iff {c : Char} : n ∈ relatives c ↔ c.toNat = n := by
  unfold relatives
  split
  · next hascii =>
    split
    · next halpha =>
      -- a letter of ASCII is related to letters only
      have hc := letter_of_ascii hascii halpha
      have hlow := toNat_toLower_of_ascii hascii
      have hupper := h.not_upper
      have hlower := h.not_lower
      have hforeign := not_mem_foreignRelatives h c.toLower.toNat
      simp only [List.mem_cons, hforeign, or_false]
      split at hlow <;> omega
    · exact List.mem_singleton.trans eq_comm
  · rw [mem_familyOf_iff h, toNat_lowerChar_eq_iff h]

end

/-! ## Texts in lower case -/

/-- The lower case of a character has an ASCII character without case in it only if it is that. -/
private theorem mem_lower_iff {c d : Char} (h : IsCaseless c.toNat) (hascii : c.toNat < 128) :
    c ∈ lower d ↔ d = c := by
  unfold lower
  split
  · next hd =>
    -- the capital I with a dot becomes a letter and a mark beyond ASCII
    have hd : d.toNat = 0x130 := by simpa using hd
    have hletter : ¬ IsCaseless 'i'.toNat := by decide
    refine iff_of_false (fun hmem => ?_) ?_
    · obtain rfl | hmem := List.mem_cons.1 hmem
      · exact hletter h
      · obtain rfl := List.mem_singleton.1 hmem
        exact absurd hascii (by decide)
    · rintro rfl
      omega
  · rw [List.mem_singleton, eq_comm, ← Char.toNat_inj, toNat_lowerChar_eq_iff h, Char.toNat_inj]

/-- No character vanishes in lower case. -/
private theorem lower_ne_nil (c : Char) : lower c ≠ [] := by
  unfold lower
  split <;> simp

/-- Lower case goes character by character. -/
theorem lowered_cons (c : Char) (cs : List Char) : lowered (c :: cs) = lower c ++ lowered cs :=
  rfl

/-- Lower case of two texts in a row. -/
theorem lowered_append (cs ds : List Char) : lowered (cs ++ ds) = lowered cs ++ lowered ds :=
  List.flatMap_append

/-- Only the empty text is empty in lower case. -/
theorem lowered_eq_nil_iff {cs : List Char} : lowered cs = [] ↔ cs = [] := by
  cases cs <;> simp [lowered, lower_ne_nil]

/-- Signs without case stay what and where they are. -/
theorem mem_lowered_iff {c : Char} (h : IsCaseless c.toNat) (hascii : c.toNat < 128)
    {cs : List Char} : c ∈ lowered cs ↔ c ∈ cs := by
  simp [lowered, List.mem_flatMap, mem_lower_iff h hascii]

/-! ## White space, quotes and signs -/

end SecretScan.Text

namespace SecretScan.Pattern

open Text

/-- A character without case is listed by itself only, also where case does not count. -/
theorem SetItem.lists_of_isCaseless {d : Char} (h : IsCaseless d.toNat) (c : Char) :
    (SetItem.range d.toNat d.toNat).lists .ignoringCase c = (c == d) := by
  simp only [SetItem.lists, Comparison.sameAs]
  rw [Bool.eq_iff_iff, List.any_eq_true, beq_iff_eq, ← Char.toNat_inj, ← mem_relatives_iff h]
  simp only [Bool.and_eq_true, decide_eq_true_eq]
  -- a set of one letter lists its relatives, and here there are none
  constructor
  · rintro ⟨n, hn, hle, hge⟩
    rwa [Nat.le_antisymm hle hge]
  · exact fun hd => ⟨d.toNat, hd, Nat.le_refl _, Nat.le_refl _⟩

end SecretScan.Pattern
