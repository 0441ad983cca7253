import Mathlib
import SecretScan.Proofs.Text.Graphemes
import SecretScan.Proofs.Text.Lines
import SecretScan.Text.Wrapping

/-!
# Folding a word

A text without blanks is a single word. Where it does not fit on a line it is folded between
graphemes: the lines, one after the other, are the text again, and each of them fits.

## Key results

- `flatten_layLines_fold`: folding a word loses nothing and adds nothing
- `cells_le_of_mem_layLines_fold`: every line of a folded word fits
-/

namespace SecretScan.Text

section Word

/-! ## Texts without blanks -/

variable {text : List Char} (h : ∀ c ∈ text, isBlank c = false)
include h

/-- Without blanks there is nothing to be trimmed. -/
theorem trimEndBlanks_of_noBlanks : trimEndBlanks text = text := by
  have hdrop : text.reverse.dropWhile isBlank = text.reverse := by
    cases hrev : text.reverse with
    | nil => rfl
    | cons c cs =>
      have hc : isBlank c = false := h c (List.mem_reverse.1 (hrev ▸ List.mem_cons_self))
      simp [hc]
  rw [trimEndBlanks, hdrop, List.reverse_reverse]

/-- Without blanks there are none beyond the width. -/
private theorem trimExcessBlanks_of_noBlanks (width : Nat) :
    trimExcessBlanks width text = text := by
  simp [trimExcessBlanks, trimEndBlanks_of_noBlanks h]

/-- Without blanks there is no tab and no line end either. -/
private theorem not_mem_of_noBlanks {c : Char} (hc : isBlank c = true) : c ∉ text :=
  fun hmem => Bool.false_ne_true ((h c hmem).symm.trans hc)

/-- Without blanks there is no tab to be expanded. -/
private theorem expandTabs_of_noBlanks : expandTabs text = text := by
  simp [expandTabs, cutAt_of_not_mem (@not_mem_of_noBlanks _ h '\t' (by decide))]

/-- A text without blanks is a single word. -/
private theorem wordsOf_of_noBlanks (hne : text ≠ []) : wordsOf text = [text] := by
  unfold wordsOf
  -- the step from one character to the next, known by what it does here
  generalize hstep : (fun (c : Char) (acc : List (List Char)) => _) = step
  have hfirst : ∀ c, step c [] = [[c]] := by simp [← hstep]
  have hnext : ∀ c d word, isBlank c = false → step c [d :: word] = [c :: d :: word] := by
    intro c d word hc
    simp [← hstep, hc]
  have hfold : text.foldr step [] = [text] := by
    clear hstep
    induction text with
    | nil => exact absurd rfl hne
    | cons c rest ih =>
      cases rest with
      | nil => exact hfirst c
      | cons d word =>
        have hrest := ih (fun x hx => h x (List.mem_cons_of_mem _ hx)) (List.cons_ne_nil _ _)
        rw [List.foldr_cons, hrest]
        exact hnext c d word (h c List.mem_cons_self)
  obtain ⟨c, rest, rfl⟩ := List.exists_cons_of_ne_nil hne
  simp [hfold, h c List.mem_cons_self]

end Word

/-! ## Folding -/

/-- Folding loses no character. -/
private theorem flatten_foldFrom (width size : Nat) (line : List Char) (gs : List Grapheme) :
    (foldFrom width size line gs).flatten = line ++ charsOf gs := by
  induction gs generalizing size line with
  | nil => simp [foldFrom]
  | cons g rest ih =>
    unfold foldFrom
    split_ifs <;> simp [ih]

/-- Folding goes on with graphemes of a text: every piece of them fits. -/
private theorem cells_le_of_mem_foldFrom {text : List Char} {width : Nat} (hwidth : 3 ≤ width)
    {line gs : List Grapheme} (hinside : line ++ gs <:+: graphemes text)
    (hline : widthOf line ≤ width) {piece : List Char}
    (h : piece ∈ foldFrom width (widthOf line) (charsOf line) gs) : cells piece ≤ width := by
  induction gs generalizing line with
  | nil =>
    rw [List.append_nil] at hinside
    rw [foldFrom, List.mem_singleton] at h
    subst h
    rwa [cells_charsOf hinside]
  | cons g rest ih =>
    rw [foldFrom] at h
    -- what is on the line and what remains stand side by side in the text
    split_ifs at h with hlong
    · rcases List.mem_cons.1 h with rfl | h
      · rwa [cells_charsOf ((List.infix_append' [] line _).trans hinside)]
      · have hg : g ∈ graphemes text := hinside.subset (by simp)
        refine @ih [g] ?_ ?_ ?_
        · exact (List.suffix_append line _).isInfix.trans hinside
        · simpa using (width_le_of_mem_graphemes hg).trans hwidth
        · simpa using h
    · refine @ih (line ++ [g]) ?_ ?_ ?_
      · rwa [List.append_assoc]
      · simp
        omega
      · simpa using h

/-- The pieces of a folded word make up the word. -/
private theorem flatten_foldWord (width : Nat) (word : List Char) :
    (foldWord width word).flatten = word := by
  rw [foldWord, flatten_foldFrom, List.nil_append, charsOf_graphemes]

/-- The pieces of a folded word are no wider than the column. -/
private theorem cells_le_of_mem_foldWord {width : Nat} (hwidth : 3 ≤ width) {word piece : List Char}
    (h : piece ∈ foldWord width word) : cells piece ≤ width :=
  @cells_le_of_mem_foldFrom word _ hwidth [] _ (List.infix_refl _) (Nat.zero_le _) _ h

namespace Filling

/-- Writing on a new line leaves the lines before it as they are. -/
private theorem lines_writeBelow (f : Filling) (piece : List Char) :
    (f.writeBelow piece).lines = f.lines ++ [piece] ∨
      f.lines = [[]] ∧ (f.writeBelow piece).lines = [piece] := by
  unfold writeBelow breakLine
  split_ifs with hstarted
  · exact .inl (by simp [write, lines])
  · refine .inr ?_
    obtain ⟨_ | _, _ | _, size⟩ := f <;> simp_all [isStarted, write, lines]

/-- Pieces are written below what is there, each on lines of its own. -/
private theorem flatten_foldl_writeBelow (pieces : List (List Char)) (f : Filling) :
    (pieces.foldl writeBelow f).lines.flatten = f.lines.flatten ++ pieces.flatten := by
  induction pieces generalizing f with
  | nil => simp
  | cons piece pieces ih =>
    rw [List.foldl_cons, ih]
    -- a piece begins a line or fills the empty one
    rcases f.lines_writeBelow piece with h | ⟨hempty, h⟩
    · simp [h]
    · simp [h, hempty]

/-- Every line was there or is one of the pieces. -/
private theorem mem_foldl_writeBelow {pieces : List (List Char)} {f : Filling} {line : List Char}
    (h : line ∈ (pieces.foldl writeBelow f).lines) : line ∈ f.lines ∨ line ∈ pieces := by
  induction pieces generalizing f with
  | nil => exact .inl h
  | cons piece pieces ih =>
    rcases ih h with hline | hline
    · -- the piece is a line of its own
      rcases f.lines_writeBelow piece with heq | ⟨-, heq⟩ <;>
        simp_all
      tauto
    · exact .inr (List.mem_cons_of_mem _ hline)

end Filling

/-! ## Laying out a word -/

section Word

variable {width : Nat} {text : List Char} (h : ∀ c ∈ text, isBlank c = false)
include h

/-- A word is broken into lines that fit and that, one after the other, are the word. -/
theorem breakLines_fold_of_noBlanks (hwidth : 3 ≤ width) :
    (breakLines width .fold text).flatten = text ∧
      ∀ line ∈ breakLines width .fold text, cells line ≤ width := by
  by_cases hne : text = []
  · subst hne
    exact ⟨rfl, by simp [breakLines, wordsOf]⟩
  -- without blanks the text is one word
  rw [breakLines, wordsOf_of_noBlanks h hne]
  simp only [List.foldl_cons, List.foldl_nil, Filling.addWord, trimEndBlanks_of_noBlanks h,
    Nat.zero_add]
  split_ifs with hfits hlong
  · -- the word fits on the line
    exact ⟨by simp [Filling.write, Filling.lines], by simpa [Filling.write, Filling.lines]⟩
  · -- the word is folded over several lines
    refine ⟨by rw [Filling.flatten_foldl_writeBelow, flatten_foldWord]; rfl, fun line hline => ?_⟩
    rcases Filling.mem_foldl_writeBelow hline with hempty | hpiece
    · have hline : line = [] := by simpa [Filling.lines] using hempty
      simp [hline]
    · exact cells_le_of_mem_foldWord hwidth hpiece
  · exact absurd (Nat.lt_of_not_le hfits) hlong

/-- A word that is laid out has no blanks to drop at the ends of its lines. -/
private theorem layLines_fold_of_noBlanks (hwidth : 3 ≤ width) :
    layLines width .fold text = breakLines width .fold text := by
  have hbreak := (breakLines_fold_of_noBlanks h hwidth).1
  rw [layLines, cutAt_of_not_mem (@not_mem_of_noBlanks _ h '\n' (by decide)),
    List.flatMap_singleton, expandTabs_of_noBlanks h]
  refine (List.map_congr_left fun line hline => ?_).trans (List.map_id _)
  -- a line is part of the word, which has no blanks
  refine trimExcessBlanks_of_noBlanks (fun c hc => h c ?_) width
  rw [← hbreak]
  exact List.mem_flatten.2 ⟨line, hline, hc⟩

/-- Folding a word loses nothing and adds nothing. -/
theorem flatten_layLines_fold (hwidth : 3 ≤ width) :
    (layLines width .fold text).flatten = text := by
  rw [layLines_fold_of_noBlanks h hwidth]
  exact (breakLines_fold_of_noBlanks h hwidth).1

/-- Every line of a folded word fits. -/
theorem cells_le_of_mem_layLines_fold (hwidth : 3 ≤ width) {line : List Char}
    (hline : line ∈ layLines width .fold text) : cells line ≤ width := by
  rw [layLines_fold_of_noBlanks h hwidth] at hline
  exact (breakLines_fold_of_noBlanks h hwidth).2 line hline

end Word

end SecretScan.Text
