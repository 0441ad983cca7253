import Mathlib
import SecretScan.Text.Grapheme

/-!
# Graphemes side by side

How many cells a text takes depends on what stands before it: a joiner at the end of one text pulls
in the beginning of the next, a selector may widen what came before. Two texts therefore need not
take as many cells together as apart, though never many more. What has been cut into graphemes,
however, is cut in the same way again, whichever of them are taken together.

## Key results

- `graphemes_charsOf`: graphemes that stand side by side are the graphemes of their own text
- `width_le_of_mem_graphemes`: a grapheme takes at most three cells
- `cells_append_le`: two texts take at most three cells more together than apart
- `exists_fitCells_eq`: a text that was fitted is one that fits, and blanks
-/

namespace SecretScan.Text

/-- The text of graphemes. -/
def charsOf (gs : List Grapheme) : List Char :=
  gs.flatMap Grapheme.chars

/-- The cells that graphemes take. -/
def widthOf (gs : List Grapheme) : Nat :=
  (gs.map (·.width)).foldr (· + ·) 0

@[simp] theorem charsOf_nil : charsOf [] = [] := rfl

@[simp] theorem charsOf_cons (g : Grapheme) (gs : List Grapheme) :
    charsOf (g :: gs) = g.chars ++ charsOf gs := rfl

/-- The characters of two rows of graphemes. -/
@[simp] theorem charsOf_append (gs hs : List Grapheme) :
    charsOf (gs ++ hs) = charsOf gs ++ charsOf hs := by
  simp [charsOf]

@[simp] theorem widthOf_nil : widthOf [] = 0 := rfl

@[simp] theorem widthOf_cons (g : Grapheme) (gs : List Grapheme) :
    widthOf (g :: gs) = g.width + widthOf gs := rfl

/-- The width of two rows of graphemes. -/
@[simp] theorem widthOf_append (gs hs : List Grapheme) :
    widthOf (gs ++ hs) = widthOf gs + widthOf hs := by
  induction gs with
  | nil => simp
  | cons g gs ih => simp [ih, Nat.add_assoc]

/-- The order of graphemes makes no difference to their width. -/
@[simp] theorem widthOf_reverse (gs : List Grapheme) : widthOf gs.reverse = widthOf gs := by
  induction gs with
  | nil => rfl
  | cons g gs ih => simp [ih, Nat.add_comm]

/-- Graphemes are made of all characters of a text, in order. -/
@[simp] theorem charsOf_graphemes (text : List Char) : charsOf (graphemes text) = text := by
  simpa [charsOf, List.flatMap] using flatten_graphemes text

/-- A character takes two cells at most. -/
theorem cellWidth_le (c : Char) : cellWidth c ≤ 2 := by
  unfold cellWidth
  split_ifs <;> omega

/-! ## Readers -/

namespace GraphemeReader

/-- What a character does to a reader that has begun: it joins the last grapheme, which the selector
may widen by a cell, or begins a new one, whatever has been read before. -/
theorem step_cases (base : Option Char) (joining : Bool) (c : Char) :
    (∃ n base', (∀ g gs, step ⟨g :: gs, base, joining⟩ c =
        ⟨⟨g.chars ++ [c], g.width + n⟩ :: gs, base', !joining && c == joiner⟩) ∧
      (n = 0 ∧ base' = base ∨ n = 1 ∧ base' = none ∧ base ≠ none)) ∨
    joining = false ∧ c ≠ joiner ∧
      ∀ gs base, step ⟨gs, base, false⟩ c = ⟨⟨[c], cellWidth c⟩ :: gs, some c, false⟩ := by
  unfold step attach canWiden
  cases joining with
  | true => exact .inl ⟨0, base, by simp, by simp⟩
  | false =>
    -- a joiner and a selector that widens nothing are attached at no width
    by_cases hjoiner : c = joiner
    · exact .inl ⟨0, base, by simp [hjoiner], by simp⟩
    by_cases hselector : c = pictureSelector
    · cases hwiden : base.any fun b => widenedTable.contains b.toNat with
      | true =>
        have hbase : base ≠ none := by
          rintro rfl
          exact absurd hwiden Bool.false_ne_true
        refine .inl ⟨1, none, fun g gs => ?_, .inr ⟨rfl, rfl, hbase⟩⟩
        simp only [Bool.false_eq_true, if_false, if_neg hjoiner, if_pos hselector, hwiden, if_true,
          beq_false_of_ne hjoiner, Bool.and_false]
      | false =>
        refine .inl ⟨0, base, fun g gs => ?_, .inl ⟨rfl, rfl⟩⟩
        simp only [Bool.false_eq_true, if_false, if_neg hjoiner, if_pos hselector, hwiden,
          beq_false_of_ne hjoiner, Bool.and_false]
    -- a character of no width is attached too, and any other one begins anew
    by_cases hwidth : cellWidth c = 0
    · exact .inl ⟨0, base, by simp [hjoiner, hselector, hwidth], by simp⟩
    · exact .inr ⟨rfl, hjoiner, by simp [hjoiner, hselector, hwidth]⟩

/-- The first character is a grapheme of its own. -/
theorem exists_step_init (c : Char) :
    ∃ n ≤ 2, ∃ base, step {} c = ⟨[⟨[c], n⟩], base, false⟩ := by
  -- what joins or takes no room is attached to nothing, and so stands alone
  by_cases hjoins : c = joiner ∨ c = pictureSelector ∨ cellWidth c = 0
  · refine ⟨0, by omega, none, ?_⟩
    unfold step attach canWiden
    rcases hjoins with h | h | h <;> simp [h]
  · push Not at hjoins
    obtain ⟨hjoiner, hselector, hwidth⟩ := hjoins
    exact ⟨cellWidth c, cellWidth_le c, some c, by simp [step, hjoiner, hselector, hwidth]⟩

/-- A reader that has read a text. -/
def reading (text : List Char) : GraphemeReader :=
  text.foldl step {}

/-- Reading goes on character by character. -/
theorem reading_append_singleton (text : List Char) (c : Char) :
    reading (text ++ [c]) = (reading text).step c := by
  simp [reading]

/-- What has been read is the text. -/
@[simp] theorem charsOf_done_reading (text : List Char) :
    charsOf (reading text).done.reverse = text :=
  charsOf_graphemes text

/-- A reader that has read something has begun a grapheme. -/
theorem exists_reading_eq {text : List Char} (h : text ≠ []) :
    ∃ g gs base joining, reading text = ⟨g :: gs, base, joining⟩ := by
  rcases hread : reading text with ⟨_ | ⟨g, gs⟩, base, joining⟩
  · have htext := charsOf_done_reading text
    rw [hread] at htext
    exact absurd htext.symm h
  · exact ⟨g, gs, base, joining, rfl⟩

/-- The graphemes that a text begins with are read from their own text. -/
private theorem done_reading_charsOf {text : List Char} {later before : List Grapheme}
    (h : (reading text).done = later ++ before) :
    (reading (charsOf before.reverse)).done = before := by
  induction text using List.reverseRecOn generalizing later with
  | nil =>
    obtain ⟨rfl, rfl⟩ := List.append_eq_nil_iff.1 h.symm
    rfl
  | append_singleton text c ih =>
    cases later with
    | nil =>
      -- nothing comes later: these are all graphemes of the text
      rw [List.nil_append] at h
      rw [← h, charsOf_done_reading]
    | cons last later =>
      rw [reading_append_singleton] at h
      by_cases htext : text = []
      · obtain ⟨n, -, base, hstep⟩ := exists_step_init c
        subst htext
        rw [show reading [] = {} from rfl, hstep, List.cons_append] at h
        obtain ⟨rfl, rfl⟩ := List.append_eq_nil_iff.1 (List.cons.inj h).2.symm
        rfl
      obtain ⟨g, gs, base, joining, hread⟩ := exists_reading_eq htext
      rw [hread] at h ih
      -- the last character belongs to what comes later, joined to a grapheme or as one of its own
      rcases step_cases base joining c with ⟨n, base', hstep, -⟩ | ⟨rfl, -, hstep⟩
      · rw [hstep] at h
        exact @ih (g :: later) (congrArg (g :: ·) (List.cons.inj h).2)
      · rw [hstep] at h
        exact ih (List.cons.inj h).2

/-- The graphemes that a text ends with are read from their own text, and leave the reader as the
whole text does. -/
private theorem reading_charsOf {text : List Char} {later before : List Grapheme}
    {base : Option Char}
    {joining : Bool} (h : reading text = ⟨later ++ before, base, joining⟩) (hne : later ≠ []) :
    reading (charsOf later.reverse) = ⟨later, base, joining⟩ := by
  induction text using List.reverseRecOn generalizing later base joining with
  | nil =>
    exact absurd (List.append_eq_nil_iff.1 (congrArg done h).symm).1 hne
  | append_singleton text c ih =>
    obtain ⟨last, later, rfl⟩ := List.exists_cons_of_ne_nil hne
    rw [reading_append_singleton] at h
    by_cases htext : text = []
    · obtain ⟨n, -, base, hstep⟩ := exists_step_init c
      subst htext
      rw [show reading [] = {} from rfl] at h
      obtain ⟨rfl, hrest⟩ := List.cons.inj (congrArg done (hstep.symm.trans h))
      obtain ⟨rfl, rfl⟩ := List.append_eq_nil_iff.1 hrest.symm
      exact h
    obtain ⟨g, gs, base₀, joining₀, hread⟩ := exists_reading_eq htext
    rw [hread] at h
    rcases step_cases base₀ joining₀ c with ⟨n, base', hstep, -⟩ | ⟨rfl, -, hstep⟩
    · rw [hstep] at h
      injection h with hdone hbase hjoining
      obtain ⟨rfl, rfl⟩ := List.cons.inj hdone
      subst hbase hjoining
      have hlater := @ih (g :: later) base₀ joining₀ hread (List.cons_ne_nil _ _)
      rw [← hstep, ← hlater, ← reading_append_singleton]
      simp
    · rw [hstep] at h
      injection h with hdone hbase hjoining
      obtain ⟨rfl, hrest⟩ := List.cons.inj hdone
      subst hbase hjoining
      -- a new grapheme is read in the same way whatever stands before it
      by_cases hne : later = []
      · subst hne
        exact hstep [] none
      · have hlater := @ih later base₀ false (hread.trans (by rw [hrest]; rfl)) hne
        rw [← hstep later base₀, ← hlater, ← reading_append_singleton]
        simp

end GraphemeReader

open GraphemeReader

/-- Graphemes that stand side by side in a text are the graphemes of their own text. -/
theorem graphemes_charsOf {text : List Char} {gs : List Grapheme} (h : gs <:+: graphemes text) :
    graphemes (charsOf gs) = gs := by
  obtain ⟨before, after, h⟩ := h
  have hdone : (reading text).done = after.reverse ++ (before ++ gs).reverse := by
    rw [← List.reverse_append, h]
    exact (List.reverse_reverse _).symm
  have hread := done_reading_charsOf hdone
  rw [List.reverse_reverse] at hread
  by_cases hne : gs = []
  · subst hne
    rfl
  -- reading the characters alone does what reading them after the others does
  have hsuffix : (reading (charsOf gs)).done = gs.reverse := by
    obtain ⟨base, joining, h⟩ : ∃ base joining,
        reading (charsOf (before ++ gs)) = ⟨gs.reverse ++ before.reverse, base, joining⟩ := by
      rw [List.reverse_append] at hread
      exact ⟨_, _, by rw [← hread]⟩
    have := reading_charsOf h (by simpa using hne)
    rw [List.reverse_reverse] at this
    rw [this]
  exact (congrArg List.reverse hsuffix).trans (List.reverse_reverse gs)

/-! ## Widths -/

namespace GraphemeReader

/-- A grapheme takes two cells, and a third when the selector has widened it. -/
private theorem width_le_of_reading {text : List Char} {g : Grapheme} {gs : List Grapheme}
    {base : Option Char} {joining : Bool} (h : reading text = ⟨g :: gs, base, joining⟩) :
    (g.width ≤ 3 ∧ (base ≠ none → g.width ≤ 2)) ∧ ∀ x ∈ gs, x.width ≤ 3 := by
  induction text using List.reverseRecOn generalizing g gs base joining with
  | nil => exact absurd (congrArg done h) (List.cons_ne_nil _ _).symm
  | append_singleton text c ih =>
    rw [reading_append_singleton] at h
    by_cases htext : text = []
    · obtain ⟨n, hn, base, hstep⟩ := exists_step_init c
      subst htext
      obtain ⟨rfl, rfl⟩ := List.cons.inj (congrArg done (hstep.symm.trans h))
      exact ⟨⟨Nat.le_succ_of_le hn, fun _ => hn⟩, by simp⟩
    obtain ⟨g₀, gs₀, base₀, joining₀, hread⟩ := exists_reading_eq htext
    obtain ⟨⟨hthree, htwo⟩, hgs⟩ := ih hread
    rw [hread] at h
    rcases step_cases base₀ joining₀ c with ⟨n, base', hstep, hn⟩ | ⟨rfl, -, hstep⟩
    · rw [hstep] at h
      injection h with hdone hbase hjoining
      obtain ⟨rfl, rfl⟩ := List.cons.inj hdone
      subst hbase
      refine ⟨?_, hgs⟩
      -- the selector widens a grapheme once: then its base is gone
      rcases hn with ⟨rfl, rfl⟩ | ⟨rfl, rfl, hne⟩
      · exact ⟨hthree, htwo⟩
      · exact ⟨Nat.succ_le_succ (htwo hne), by simp⟩
    · rw [hstep] at h
      injection h with hdone
      obtain ⟨rfl, rfl⟩ := List.cons.inj hdone
      have hwidth := cellWidth_le c
      exact ⟨⟨Nat.le_succ_of_le hwidth, fun _ => hwidth⟩, by simpa using ⟨hthree, hgs⟩⟩

end GraphemeReader

/-- A grapheme takes at most three cells. -/
theorem width_le_of_mem_graphemes {text : List Char} {g : Grapheme} (h : g ∈ graphemes text) :
    g.width ≤ 3 := by
  have hmem : g ∈ (reading text).done := List.mem_reverse.1 h
  have htext : text ≠ [] := by
    rintro rfl
    exact absurd hmem List.not_mem_nil
  -- the reader has read something, and no grapheme in it is wider than three
  obtain ⟨g₀, gs, base, joining, hread⟩ := exists_reading_eq htext
  obtain ⟨⟨hthree, -⟩, hgs⟩ := width_le_of_reading hread
  rw [hread] at hmem
  rcases List.mem_cons.1 hmem with rfl | hmem
  · exact hthree
  · exact hgs g hmem

namespace GraphemeReader

/-- A character adds at most two cells. -/
theorem widthOf_step (r : GraphemeReader) (c : Char) :
    widthOf r.done ≤ widthOf (r.step c).done ∧ widthOf (r.step c).done ≤ widthOf r.done + 2 := by
  have hattach : ∀ n ≤ 1, widthOf r.done ≤ widthOf (r.attach c n).done ∧
      widthOf (r.attach c n).done ≤ widthOf r.done + 2 := by
    intro n hn
    unfold attach
    split
    · simp_all
    · simp_all
      omega
  unfold step
  split_ifs
  · exact hattach 0 (by omega)
  · exact hattach 0 (by omega)
  · exact hattach 1 le_rfl
  · exact hattach 0 (by omega)
  · exact hattach 0 (by omega)
  · -- a character that begins anew takes two cells at most
    have hwidth := cellWidth_le c
    simp only [widthOf_cons]
    omega

/-- After a character there is a grapheme. -/
private theorem done_step_ne_nil (r : GraphemeReader) (c : Char) : (r.step c).done ≠ [] := by
  have hattach : ∀ n, (r.attach c n).done ≠ [] := by
    intro n
    unfold attach
    split <;> simp
  unfold step
  split_ifs <;> simp [hattach]

/-- One reader has taken at most `k` cells more than another. Where it still may be widened on its
own, it has taken fewer. -/
structure Trails (k : Nat) (r s : GraphemeReader) : Prop where
  joining : r.joining = s.joining
  left_begun : r.done ≠ []
  right_begun : s.done ≠ []
  width : widthOf r.done ≤ k + widthOf s.done
  widen : r.base = none ∨ r.base = s.base ∨ widthOf r.done < k + widthOf s.done

/-- A reader that is at most so many cells ahead of another one is so after one character more. -/
theorem Trails.step {k : Nat} {r s : GraphemeReader} (h : Trails k r s) (c : Char) :
    Trails k (r.step c) (s.step c) := by
  obtain ⟨_ | ⟨g, gs⟩, base, joining⟩ := r
  · exact absurd rfl h.left_begun
  obtain ⟨_ | ⟨g', gs'⟩, base', joining'⟩ := s
  · exact absurd rfl h.right_begun
  obtain rfl : joining = joining' := h.joining
  have hwidth := h.width
  have hwiden := h.widen
  simp only [widthOf_cons] at hwidth hwiden
  rcases step_cases base joining c with ⟨n, base₁, hr, hn⟩ | ⟨rfl, -, hnew⟩
  · by_cases hbase : base = base'
    · -- both readers are widened or none is
      subst hbase
      rw [hr, hr]
      exact ⟨rfl, by simp, by simp, by simp; omega, .inr (.inl rfl)⟩
    rcases step_cases base' joining c with ⟨m, base₂, hs, -⟩ | ⟨rfl, -, hnew⟩
    · rw [hr, hs]
      rcases hn with ⟨rfl, rfl⟩ | ⟨rfl, rfl, hne⟩
      · refine ⟨rfl, by simp, by simp, by simp; omega, ?_⟩
        rcases hwiden with hnone | heq | hlt
        · exact .inl hnone
        · exact absurd heq hbase
        · exact .inr (.inr (by simp; omega))
      · -- the selector widens what only the first reader has read
        have hlt := (hwiden.resolve_left hne).resolve_left hbase
        exact ⟨rfl, by simp, by simp, by simp; omega, .inl rfl⟩
    · rw [hnew, hnew]
      exact ⟨rfl, by simp, by simp, by simp; omega, .inr (.inl rfl)⟩
  · rw [hnew, hnew]
    exact ⟨rfl, by simp, by simp, by simp; omega, .inr (.inl rfl)⟩

/-- A reader that is at most so many cells ahead of another one is so at the end of a text. -/
theorem Trails.run {k : Nat} {r s : GraphemeReader} (h : Trails k r s) (text : List Char) :
    widthOf (text.foldl GraphemeReader.step r).done ≤
      k + widthOf (text.foldl GraphemeReader.step s).done := by
  induction text generalizing r s with
  | nil => exact h.width
  | cons c text ih => exact ih (h.step c)

/-- A joiner takes no cells. -/
private theorem widthOf_step_joiner (r : GraphemeReader) :
    widthOf (r.step joiner).done = widthOf r.done := by
  have hattach : widthOf (r.attach joiner 0).done = widthOf r.done := by
    unfold attach
    split <;> simp_all
  simp only [step, if_pos]
  split_ifs <;> exact hattach

/-- After any other character nothing is to be joined. -/
private theorem joining_step {c : Char} (hc : c ≠ joiner) (r : GraphemeReader) :
    (r.step c).joining = false := by
  have hattach : ∀ n, (r.attach c n).joining = r.joining := by
    intro n
    unfold attach
    split <;> rfl
  unfold step
  split_ifs <;> simp_all

/-- Whatever has been read before, a text takes at most three cells more than by itself: joiners
at its beginning may free a character that would have been joined, and the selector may widen a
symbol that it would not have seen. -/
private theorem widthOf_foldl_step_le {k : Nat} (text : List Char) {r s : GraphemeReader}
    (h : widthOf r.done ≤ k + widthOf s.done) :
    widthOf (text.foldl step r).done ≤ k + 3 + widthOf (text.foldl step s).done := by
  induction text generalizing r s with
  | nil => exact h.trans (by simp)
  | cons c text ih =>
    by_cases hc : c = joiner
    · -- joiners alone can keep the readers out of step, and they take no room
      subst hc
      exact ih (by rwa [widthOf_step_joiner, widthOf_step_joiner])
    · have hr := (r.widthOf_step c).2
      have hs := (s.widthOf_step c).1
      exact @Trails.run (k + 3) _ _ ⟨by rw [joining_step hc, joining_step hc], r.done_step_ne_nil c,
        s.done_step_ne_nil c, by omega, .inr (.inr (by omega))⟩ text

end GraphemeReader

/-- The cells of a text are the width of its graphemes. -/
theorem cells_eq_widthOf (text : List Char) : cells text = widthOf (reading text).done :=
  widthOf_reverse _

@[simp] theorem cells_nil : cells [] = 0 := rfl

/-- Two texts take at most three cells more together than apart. -/
theorem cells_append_le (text other : List Char) :
    cells (text ++ other) ≤ cells text + cells other + 3 := by
  have h := @widthOf_foldl_step_le (cells text) other (reading text) {}
    (by rw [cells_eq_widthOf]; exact Nat.le_add_right _ _)
  rw [cells_eq_widthOf, reading, List.foldl_append]
  rw [cells_eq_widthOf other]
  exact h.trans (by unfold reading; omega)

/-- A character adds two cells at most. -/
theorem cells_append_singleton_le (text : List Char) (c : Char) :
    cells (text ++ [c]) ≤ cells text + 2 := by
  rw [cells_eq_widthOf, cells_eq_widthOf, reading_append_singleton]
  exact (widthOf_step _ c).2

/-- A blank adds one cell at most. -/
private theorem cells_append_blank_le (text : List Char) : cells
    (text ++ [' ']) ≤ cells text + 1 := by
  have hjoiner : ' ' ≠ joiner := by decide
  have hselector : ' ' ≠ pictureSelector := by decide
  have hwidth : cellWidth ' ' = 1 := cellWidth_of_ascii (by decide) (by decide)
  -- a blank that is attached to the last character takes no room
  have hattach : widthOf ((reading text).attach ' ' 0).done ≤ widthOf (reading text).done := by
    unfold attach
    split <;> simp_all
  rw [cells_eq_widthOf, cells_eq_widthOf, reading_append_singleton]
  simp only [step, if_neg hjoiner, if_neg hselector, hwidth, Nat.one_ne_zero, if_false]
  split_ifs
  · exact Nat.le_succ_of_le hattach
  · simp only [widthOf_cons]
    omega

/-- Blanks take a cell each, at most. -/
theorem cells_append_blanks_le (text : List Char) (n : Nat) :
    cells (text ++ List.replicate n ' ') ≤ cells text + n := by
  induction n with
  | zero => simp
  | succ n ih =>
    rw [List.replicate_succ', ← List.append_assoc]
    exact (cells_append_blank_le _).trans (Nat.succ_le_succ ih)

/-! ## Taking and fitting -/

/-- Graphemes that stand side by side take as many cells as a text of their own. -/
theorem cells_charsOf {text : List Char} {gs : List Grapheme}
    (h : gs <:+: graphemes text) : cells (charsOf gs) = widthOf gs :=
  congrArg widthOf (graphemes_charsOf h)

/-- What is taken of graphemes are the first of them, and perhaps a blank. -/
private theorem exists_takeCells_eq (n : Nat) (gs : List Grapheme) :
    ∃ taken blanks, taken <+: gs ∧
      takeCells n gs = charsOf taken ++ List.replicate blanks ' ' ∧ widthOf taken + blanks ≤ n := by
  -- the graphemes are taken while they fit
  fun_induction takeCells n gs with
  | case1 gs => exact ⟨[], 0, List.nil_prefix, rfl, by simp⟩
  | case2 n hn => exact ⟨[], 0, List.nil_prefix, rfl, by simp⟩
  | case3 n g rest hn hle ih =>
    obtain ⟨taken, blanks, hfirst, heq, hwidth⟩ := ih
    refine ⟨g :: taken, blanks, ?_, ?_, ?_⟩
    · exact List.cons_prefix_cons.2 ⟨rfl, hfirst⟩
    · rw [heq, charsOf_cons, List.append_assoc]
    · rw [widthOf_cons]
      omega
  | case4 n g rest hn hle =>
    exact ⟨[], 1, List.nil_prefix, rfl, by simpa using Nat.one_le_iff_ne_zero.2 hn⟩

/-- A text that was fitted is one that fits, and blanks. -/
theorem exists_fitCells_eq (width : Nat) (text : List Char) :
    ∃ taken blanks, fitCells width text = taken ++ List.replicate blanks ' ' ∧
      cells taken + blanks ≤ width := by
  unfold fitCells
  dsimp only
  -- a text that fits is filled up, and a longer one is cut
  split_ifs with hfits
  · exact ⟨text, width - cells text, rfl, by omega⟩
  · obtain ⟨taken, blanks, hfirst, heq, hwidth⟩ := exists_takeCells_eq width (graphemes text)
    exact ⟨charsOf taken, blanks, heq, by rwa [cells_charsOf hfirst.isInfix]⟩

end SecretScan.Text
