import Mathlib
import SecretScan.Markup.Style
import SecretScan.Proofs.Text.Wrapping
import SecretScan.Table

/-!
# Rows of a table

A row is printed as lines of slots between bars, one slot for each column. Whatever the texts of the
cells are, a slot takes a few cells more than its column at most, so a row that leaves room for that
is printed uncut. What stands in the slots of a column that folds its texts is, without the blanks
around it, the text of the cell in pieces.

## Key results

- `cells_barred_le`: how many cells a line of a row takes at most
- `flatten_piecesIn`: the pieces of a folded word are the word
- `printed_append`, `printed_of_fits`: lines that fit are printed as they are
-/

namespace SecretScan.Table

open Text

/-! ## What fits -/

/-- A line that is cut is at most one cell wider than its column. -/
private theorem cells_cutLine_le {width : Nat} (hwidth : 1 ≤ width) (overflow : Overflow)
    (line : List Char) : cells (cutLine width overflow line) ≤ width + 1 := by
  unfold cutLine
  split_ifs with hfits
  · exact Nat.le_succ_of_le hfits
  -- what is filled up to a width takes no more than the width
  have hfit : ∀ n, cells (fitCells n line) ≤ n := by
    intro n
    obtain ⟨taken, blanks, heq, hle⟩ := exists_fitCells_eq n line
    rw [heq]
    exact (cells_append_blanks_le taken blanks).trans hle
  cases overflow with
  | fold => exact Nat.le_succ_of_le (hfit width)
  | ellipsis =>
    -- the dots may take a cell more than the last cut leaves
    have hcut := hfit (width - 1)
    have hdots := cells_append_singleton_le (fitCells (width - 1) line) '…'
    dsimp only
    omega

/-- A text that adds few cells more than a width to what stands before it. -/
def Fits (outer : Nat) (slot : List Char) : Prop :=
  ∀ before, cells (before ++ slot) ≤ cells before + (outer + 4)

/-- Blanks fit where they are as many as there are cells. -/
private theorem fits_blanks (outer : Nat) : Fits outer (List.replicate outer ' ') := by
  intro before
  have h := cells_append_blanks_le before outer
  omega

/-- An aligned line adds little more than the width of its column. -/
private theorem cells_append_align_le {width : Nat} (hwidth : 1 ≤ width) (c : Column)
    (before line : List Char) :
    cells (before ++ c.align width line) ≤ cells before + (width + 4) := by
  unfold Column.align
  cases c.alignment with
  | left =>
    -- the cut line is filled up to the width, with blanks if a wide character does not fit
    dsimp only
    obtain ⟨taken, blanks, heq, hle⟩ :=
      exists_fitCells_eq width (cutLine width c.overflow line)
    have happend := cells_append_le before taken
    have hblanks := cells_append_blanks_le (before ++ taken) blanks
    rw [heq, ← List.append_assoc]
    omega
  | right =>
    -- the cut line is a cell wider at most, and the blanks stand before it
    dsimp only
    generalize hcut : cutLine width c.overflow (trimEndBlanks line) = cut
    have hcells : cells cut ≤ width + 1 := hcut ▸ cells_cutLine_le hwidth _ _
    have hblanks := cells_append_blanks_le before (width - cells cut)
    have happend := cells_append_le (before ++ List.replicate (width - cells cut) ' ') cut
    rw [← List.append_assoc]
    omega

/-- Every slot of a cell fits, whatever the text is. -/
private theorem fits_of_mem_cell {c : Column} {outer : Nat} {text slot : List Char}
    (h : slot ∈ c.cell outer text) : Fits outer slot := by
  unfold Column.cell at h
  split_ifs at h with hroom
  · obtain ⟨aligned, haligned, rfl⟩ := List.mem_map.1 h
    obtain ⟨line, -, rfl⟩ := List.mem_map.1 haligned
    have hroom : 2 * padding < outer := of_decide_eq_true hroom
    intro before
    have hfirst := cells_append_blanks_le before padding
    have halign := @cells_append_align_le (outer - 2 * padding) (by omega) c
      (before ++ List.replicate padding ' ') line
    have hlast := cells_append_blanks_le
      (before ++ List.replicate padding ' ' ++ c.align (outer - 2 * padding) line) padding
    -- the blanks before, the line and the blanks after add up to the width and a little
    simp only [← List.append_assoc]
    omega
  · exact absurd h List.not_mem_nil

/-! ## Lines of a row -/

/-- Slots between bars. -/
def barred (slots : List (List Char)) : List Char :=
  '│' :: ['│'].intercalate slots ++ ['│']

/-- How many lines a row takes. -/
def heightOf (cells : List (List (List Char))) : Nat :=
  max 1 ((cells.map List.length).foldl max 0)

/-- The slots of a row, line by line. -/
def slotsOf (widths : List Nat) (cells : List (List (List Char))) : List (List (List Char)) :=
  (List.range (heightOf cells)).map fun i =>
    (widths.zip cells).map fun (w, lines) => (fillHeight (heightOf cells) w false lines).getD i []

/-- A row is printed slot by slot, with bars between them. -/
private theorem rowLines_eq_map_barred (widths : List Nat) (cells : List (List (List Char))) :
    rowLines '│' false widths cells = (slotsOf widths cells).map barred := by
  simp [rowLines, slotsOf, barred, heightOf, Function.comp_def]

/-- What is filled in under short cells is blank. -/
private theorem mem_fillHeight {height width : Nat} {lines : List (List Char)} {slot : List Char}
    (h : slot ∈ fillHeight height width false lines) :
    slot ∈ lines ∨ slot = List.replicate width ' ' := by
  rcases List.mem_append.1 h with h | h
  · exact .inl h
  · exact .inr (List.eq_of_mem_replicate h)

/-- The greatest of some lengths is at least as great as each of them. -/
private theorem le_foldl_max (lengths : List Nat) (n : Nat) :
    n ≤ lengths.foldl max n ∧ ∀ m ∈ lengths, m ≤ lengths.foldl max n := by
  induction lengths generalizing n with
  | nil => simp
  | cons first rest ih =>
    obtain ⟨hle, hrest⟩ := ih (max n first)
    -- the first length is taken into the maximum, the others come after it
    refine ⟨(le_max_left n first).trans hle, fun m hm => ?_⟩
    rcases List.mem_cons.1 hm with rfl | hm
    · exact (le_max_right n m).trans hle
    · exact hrest m hm

/-- No cell is higher than its row. -/
private theorem length_le_heightOf {cells : List (List (List Char))} {lines : List (List Char)}
    (h : lines ∈ cells) : lines.length ≤ heightOf cells :=
  ((le_foldl_max _ 0).2 _ (List.mem_map_of_mem h)).trans (le_max_right _ _)

/-- Every cell is filled up to the height of its row. -/
private theorem length_fillHeight {height width : Nat} {lines : List (List Char)}
    (h : lines.length ≤ height) : (fillHeight height width false lines).length = height := by
  simp [fillHeight]
  omega

/-- Every slot of a row fits into its column if those of the cells do. -/
private theorem fits_of_mem_slotsOf {widths : List Nat} {cells : List (List (List Char))}
    (h : List.Forall₂ (fun w lines => ∀ slot ∈ lines, Fits w slot) widths cells)
    {slots : List (List Char)} (hslots : slots ∈ slotsOf widths cells) :
    List.Forall₂ Fits widths slots := by
  obtain ⟨i, -, rfl⟩ := List.mem_map.1 hslots
  generalize heightOf cells = height
  -- a slot is a line of the cell, a blank one below it, or missing
  have hslot : ∀ w lines, (∀ slot ∈ lines, Fits w slot) →
      Fits w ((fillHeight height w false lines).getD i []) := by
    intro w lines hlines
    cases hget : (fillHeight height w false lines)[i]? with
    | none =>
      intro before
      simp [hget]
    | some slot =>
      have hmem := mem_fillHeight (List.mem_of_getElem? hget)
      simp only [List.getD_eq_getElem?_getD, hget, Option.getD_some]
      rcases hmem with hmem | rfl
      · exact hlines slot hmem
      · exact fits_blanks w
  clear hslots
  induction h with
  | nil => exact .nil
  | cons hlines hrest ih => exact .cons (hslot _ _ hlines) ih

/-- A line of a row takes six cells more than each column at most, and four for the ends. -/
theorem cells_barred_le {widths : List Nat} {slots : List (List Char)}
    (h : List.Forall₂ Fits widths slots) :
    cells (barred slots) ≤ (widths.map (· + 6)).sum + 4 := by
  -- the bars and slots are written one after the other
  have hslots : ∀ before,
      cells (before ++ ['│'].intercalate slots) ≤ cells before + (widths.map (· + 6)).sum := by
    induction h with
    | nil => simp
    | @cons w slot ws slots hslot hrest ih =>
      intro before
      have hfits := hslot before
      cases slots with
      | nil =>
        simp only [List.intercalate_singleton, List.map_cons, List.sum_cons]
        omega
      | cons next slots =>
        have hbar := cells_append_singleton_le (before ++ slot) '│'
        have hnext := ih (before ++ slot ++ ['│'])
        rw [List.intercalate_cons_cons]
        simp only [← List.append_assoc, List.map_cons, List.sum_cons] at hnext ⊢
        omega
  have hfirst := cells_append_singleton_le [] '│'
  have hmiddle := hslots ['│']
  have hlast := cells_append_singleton_le (['│'] ++ ['│'].intercalate slots) '│'
  simp only [barred, List.nil_append, cells_nil, List.cons_append] at *
  omega

/-! ## Columns of a row -/

/-- What stands in a column, line by line, without the blanks around it. -/
def piecesIn (k : Nat) (block : List (List (List Char))) : List (List Char) :=
  block.map fun slots => Markup.Style.trimmed (slots.getD k [])

/-- The slots of a column, from the top to the bottom. -/
private theorem map_getD_slotsOf {widths : List Nat} {cells : List (List (List Char))} {k w : Nat}
    {lines : List (List Char)} (hwidth : widths[k]? = some w) (hlines : cells[k]? = some lines) :
    (slotsOf widths cells).map (·.getD k []) = fillHeight (heightOf cells) w false lines := by
  -- a cell is filled to the height of its row
  have hlength : (fillHeight (heightOf cells) w false lines).length = heightOf cells :=
    length_fillHeight (length_le_heightOf (List.mem_of_getElem? hlines))
  have hzip : (widths.zip cells)[k]? = some (w, lines) :=
    List.getElem?_zip_eq_some.2 ⟨hwidth, hlines⟩
  refine List.ext_getElem? fun i => ?_
  -- up to the height each row of slots has the line of the cell
  by_cases hi : i < heightOf cells
  · simp [slotsOf, hi, hzip, hlength]
  · simp [slotsOf, hi, hlength]

/-- Blanks around a piece are trimmed. -/
private theorem trimmed_append {before piece after : List Char}
    (hbefore : ∀ c ∈ before, isBlank c = true)
    (hpiece : ∀ c ∈ piece, isBlank c = false) (hafter : ∀ c ∈ after, isBlank c = true) :
    Markup.Style.trimmed (before ++ piece ++ after) = piece := by
  have hdrop : ∀ blanks rest : List Char, (∀ c ∈ blanks, isBlank c = true) →
      (blanks ++ rest).dropWhile isBlank = rest.dropWhile isBlank :=
    fun blanks rest h => List.dropWhile_append_of_pos h
  rw [Markup.Style.trimmed, List.append_assoc, hdrop before _ hbefore]
  cases piece with
  | nil =>
    -- a piece of no characters leaves blanks alone, which are all trimmed
    have hempty : after.dropWhile isBlank = [] := List.dropWhile_eq_nil_iff.2 hafter
    simp [hempty, trimEndBlanks]
  | cons c rest =>
    -- a piece that begins with a character ends the trimming on both sides
    have hc : isBlank c = false := hpiece c List.mem_cons_self
    rw [List.cons_append, List.dropWhile_cons_of_neg (by simp [hc]), trimEndBlanks,
      ← List.cons_append, List.reverse_append, hdrop _ _ (by simpa using hafter)]
    exact trimEndBlanks_of_noBlanks hpiece

/-- What stands in a folded cell, without the blanks around it, is what the text is folded to. -/
private theorem map_trimmed_cell {c : Column} (hfold : c.overflow = .fold)
    (hleft : c.alignment = .left)
    {w : Nat} (hw : 5 ≤ w) {text : List Char} (h : ∀ x ∈ text, isBlank x = false) :
    (c.cell w text).map Markup.Style.trimmed = layLines (w - 2 * padding) .fold text := by
  have hroom : hasRoom w = true := decide_eq_true (by simp [padding]; omega)
  have hwidth : 3 ≤ w - 2 * padding := by
    simp only [padding]
    omega
  rw [Column.cell, if_pos hroom, Column.lines, hfold, List.map_map, List.map_map]
  refine (List.map_congr_left fun line hline => ?_).trans (List.map_id _)
  have hcells : cells line ≤ w - 2 * padding := cells_le_of_mem_layLines_fold h hwidth hline
  have hsolid : ∀ x ∈ line, isBlank x = false := by
    intro x hx
    refine h x ?_
    rw [← flatten_layLines_fold h hwidth]
    exact List.mem_flatten.2 ⟨line, hline, hx⟩
  -- a line that fits is only filled up
  have halign : c.align (w - 2 * padding) line =
      line ++ List.replicate (w - 2 * padding - cells line) ' ' := by
    simp [Column.align, hleft, cutLine, fitCells, hcells]
  have hblank : ∀ n, ∀ x ∈ List.replicate n ' ', isBlank x = true := by
    intro n x hx
    rw [List.eq_of_mem_replicate hx]
    decide
  simp only [Function.comp_apply, halign, id_eq, ← List.append_assoc]
  rw [List.append_assoc _ _ (List.replicate padding ' '), List.replicate_append_replicate]
  exact trimmed_append (hblank _) hsolid (hblank _)

/-- The pieces of a word in a column that folds its texts are the word. -/
theorem flatten_piecesIn {c : Column} (hfold : c.overflow = .fold) (hleft : c.alignment = .left)
    {widths : List Nat} {cells : List (List (List Char))} {k w : Nat} {text : List Char}
    (hw : 5 ≤ w) (hwidth : widths[k]? = some w) (hcell : cells[k]? = some (c.cell w text))
    (h : ∀ x ∈ text, isBlank x = false) :
    (piecesIn k (slotsOf widths cells)).flatten = text := by
  have hblank : Markup.Style.trimmed (List.replicate w ' ') = [] := by
    have := @trimmed_append (List.replicate w ' ') [] []
      (fun x hx => by rw [List.eq_of_mem_replicate hx]; decide) (by simp) (by simp)
    simpa using this
  -- the cell is its lines, padded, and then rows of blanks down to the height
  have hpieces : piecesIn k (slotsOf widths cells) =
      layLines (w - 2 * padding) .fold text ++
        List.replicate (heightOf cells - (c.cell w text).length) [] := by
    calc piecesIn k (slotsOf widths cells)
        = ((slotsOf widths cells).map (·.getD k [])).map Markup.Style.trimmed := by
          rw [piecesIn, List.map_map]
          rfl
      _ = (fillHeight (heightOf cells) w false (c.cell w text)).map Markup.Style.trimmed := by
          rw [map_getD_slotsOf hwidth hcell]
      _ = _ := by
          simp [fillHeight, map_trimmed_cell hfold hleft hw h, hblank]
  have hlay : (layLines (w - 2 * padding) .fold text).flatten = text :=
    flatten_layLines_fold h (by simp only [padding]; omega)
  rw [hpieces, List.flatten_append, hlay]
  simp

/-! ## Printing -/

/-- Lines are printed one after another. -/
theorem printed_append (width : Nat) (lines more : List (List Char)) :
    printed width (lines ++ more) = printed width lines ++ printed width more := by
  unfold printed
  split_ifs
  · rfl
  · rw [List.flatMap_append, String.ofList_append]

/-- Lines that fit are printed as they are. -/
theorem printed_of_fits {width : Nat} {lines : List (List Char)} (hwidth : width ≠ 0)
    (h : ∀ line ∈ lines, cells line ≤ width) :
    printed width lines = String.ofList (lines.flatMap (· ++ ['\n'])) := by
  have hcut : ∀ line ∈ lines, cutLine width .fold line ++ ['\n'] = line ++ ['\n'] := by
    intro line hline
    rw [cutLine, if_pos (h line hline)]
  rw [printed, if_neg hwidth, List.flatMap_congr hcut]

/-- The lines above the rows of a table. -/
def head (width : Nat) (columns : List Column) : List (List Char) :=
  let ws := widths width columns
  [topBorder.line ws] ++
    rowLines '┃' true ws (cellsOf columns ws (columns.map (·.header.toList))) ++
    [headBorder.line ws]

/-- The line below the rows. -/
def foot (width : Nat) (columns : List Column) : List (List Char) :=
  [bottomBorder.line (widths width columns)]

/-- Rows as they are printed. -/
def printedRows (blocks : List (List (List (List Char)))) : String :=
  String.ofList (blocks.flatten.flatMap fun slots => barred slots ++ ['\n'])

/-- Narrowing keeps the number of columns. -/
private theorem length_narrow (excess : Nat) (ws : List Nat) :
    (narrow excess ws).length = ws.length := by
  induction ws generalizing excess with
  | nil => rfl
  | cons w rest ih => simp [narrow, ih]

/-- Each column has a width. -/
theorem length_widths (width : Nat) (columns : List Column) :
    (widths width columns).length = columns.length := by
  unfold widths
  dsimp only
  split_ifs <;> simp [length_narrow]

/-- The lines of each cell fit into its column. -/
private theorem fits_cellsOf {columns : List Column} {ws : List Nat} {texts : List (List Char)}
    (hcolumns : columns.length = ws.length) (htexts : texts.length = ws.length) :
    List.Forall₂ (fun w lines => ∀ slot ∈ lines, Fits w slot) ws (cellsOf columns ws texts) := by
  induction ws generalizing columns texts with
  | nil =>
    rw [List.length_eq_zero_iff.1 hcolumns]
    exact .nil
  | cons w ws ih =>
    -- widths, columns and texts have one length
    obtain ⟨c, columns, rfl⟩ := List.exists_cons_of_length_eq_add_one hcolumns
    obtain ⟨text, texts, rfl⟩ := List.exists_cons_of_length_eq_add_one htexts
    exact .cons (fun slot hslot => fits_of_mem_cell hslot)
      (ih (Nat.succ.inj hcolumns) (Nat.succ.inj htexts))

/-- A table that leaves some room around its columns is printed with its rows uncut, in order. -/
theorem printed_lines {width : Nat} {columns : List Column} {rows : List (List (List Char))}
    (hroom : ((widths width columns).map (· + 6)).sum + 4 ≤ width)
    (hrows : ∀ row ∈ rows, row.length = columns.length) :
    printed width (lines width columns rows) =
      printed width (head width columns) ++
        printedRows (rows.map fun row =>
          slotsOf (widths width columns) (cellsOf columns (widths width columns) row)) ++
        printed width (foot width columns) := by
  have hlength := length_widths width columns
  have hlines : lines width columns rows = head width columns ++
      (rows.flatMap fun row => (slotsOf (widths width columns)
        (cellsOf columns (widths width columns) row)).map barred) ++ foot width columns := by
    simp only [lines, head, foot, rowLines_eq_map_barred]
  -- each line of a row fits, so that the printer keeps it whole
  have hfits : ∀ line ∈ rows.flatMap fun row => (slotsOf (widths width columns)
      (cellsOf columns (widths width columns) row)).map barred, cells line ≤ width := by
    intro line hline
    obtain ⟨row, hrow, hline⟩ := List.mem_flatMap.1 hline
    obtain ⟨slots, hslots, rfl⟩ := List.mem_map.1 hline
    have hcells := fits_cellsOf hlength.symm ((hrows row hrow).trans hlength.symm)
    exact (cells_barred_le (fits_of_mem_slotsOf hcells hslots)).trans hroom
  rw [hlines, printed_append, printed_append, printed_of_fits (by omega) hfits]
  simp [printedRows, List.flatMap_assoc, List.flatten_eq_flatMap, List.flatMap_map]

end SecretScan.Table
