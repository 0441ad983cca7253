import Mathlib
import SecretScan.Proofs.Except
import SecretScan.Proofs.Markup
import SecretScan.Proofs.Table
import SecretScan.Report.Table

/-!
# What the table of findings shows

The table takes the fields of a finding as markup. Where one of them is ill-formed there is no table
at all. Otherwise the findings are printed in order, and a cell shows the plain text of the markup:
tags are swallowed, a backslash before a bracket is dropped, names of emoji become pictures. A field
is sure to be shown as it is only if nothing in it is markup. All this holds whatever arguments of
actions can be read.

## Key results

- `table_printed`: when there is a table, what its rows are, and which fields it shows as they are
- `table_ne_ok_of_closingTag`: a single path can be enough to have no table
-/

namespace SecretScan.Report

open Table (widths slotsOf cellsOf piecesIn printedRows)

variable {reads : List Char → Bool}

/-- Is this a control character? -/
def isControl (c : Char) : Bool :=
  c.toNat < 32 || (127 ≤ c.toNat && c.toNat < 160)

/-- Has the text neither white space nor control characters? -/
def IsSolid (text : List Char) : Prop :=
  ∀ c ∈ text, Text.isBlank c = false ∧ isControl c = false

/-- What is not printed is a control character. -/
private theorem isDropped_of_not_isControl {c : Char} (h : isControl c = false) :
    Markup.isDropped c = false := by
  simp [isControl] at h
  simp [Markup.isDropped]
  omega

/-- The fields of a finding that are markup, each with the number of its column. -/
def markupFields (f : Finding) : List (Nat × String) :=
  [(1, f.type), (2, f.file), (4, f.matchPreview), (5, f.hash)]

/-- The width of a terminal on which the table is not narrowed. -/
def fullWidth : Nat := 220

/-- Are these the lines of a row: one at least, each with a slot for every column? -/
def IsBlock (block : List (List (List Char))) : Prop :=
  block ≠ [] ∧ ∀ slots ∈ block, slots.length = tableColumns.length

/-- Is this a table with a block of lines for each finding, in order, of which something holds? -/
def HasRows (output : String) (findings : List Finding)
    (holds : Finding → List (List (List Char)) → Prop) : Prop :=
  ∃ blocks, output = Table.printed fullWidth (Table.head fullWidth tableColumns) ++
      printedRows blocks ++ Table.printed fullWidth (Table.foot fullWidth tableColumns) ∧
    List.Forall₂ (fun f block => IsBlock block ∧ holds f block) findings blocks

/-- The widths of the columns on a wide terminal, blanks included. -/
private theorem widths_fullWidth : widths fullWidth tableColumns = [12, 22, 42, 10, 16, 76] := by
  decide

/-- The texts of a row: there are some if every field that is markup has a plain text. -/
theorem rowTexts_eq_ok_iff {f : Finding} {texts : List (List Char)} :
    rowTexts reads (widths fullWidth tableColumns) f = .ok texts ↔
      ∃ type file preview hash, Markup.plain f.type.toList reads = .ok type ∧
        Markup.plain f.file.toList reads = .ok file ∧
        Markup.plain f.matchPreview.toList reads = .ok preview ∧
        Markup.plain f.hash.toList reads = .ok hash ∧
        texts = [Markup.printed (Text.uppered f.severity.name.toList), type, file,
          (toString f.line).toList, preview, hash] := by
  -- every column has room, so no field is passed over
  have hroom : ∀ w ∈ widths fullWidth tableColumns, Table.hasRoom w = true := by decide
  rw [rowTexts, mapM_eq_ok_iff]
  rw [widths_fullWidth] at hroom ⊢
  simp only [List.forall_mem_cons] at hroom
  obtain ⟨-, h22, h42, h10, h16, h76, -⟩ := hroom
  simp only [tableRow, List.zip_cons_cons, List.zip_nil_left, List.forall₂_cons_left_iff,
    List.forall₂_nil_left_iff, Content.text, h22, h42, h10, h16, h76, if_true,
    Markup.plain_toString, String.toList_ofList, Except.ok.injEq]
  -- the six cells are taken apart and put together again
  constructor
  · rintro ⟨_, _, rfl, ⟨type, _, htype, ⟨file, _, hfile, ⟨_, _, rfl, ⟨preview, _, hpreview,
      ⟨hash, _, hhash, rfl, rfl⟩, rfl⟩, rfl⟩, rfl⟩, rfl⟩, rfl⟩
    exact ⟨type, file, preview, hash, htype, hfile, hpreview, hhash, rfl⟩
  · rintro ⟨type, file, preview, hash, htype, hfile, hpreview, hhash, rfl⟩
    exact ⟨_, _, rfl, ⟨type, _, htype, ⟨file, _, hfile, ⟨_, _, rfl, ⟨preview, _, hpreview,
      ⟨hash, _, hhash, rfl, rfl⟩, rfl⟩, rfl⟩, rfl⟩, rfl⟩, rfl⟩

/-- There is a row if the markup of each field is well-formed. -/
private theorem exists_rowTexts_eq_ok_iff {f : Finding} :
    (∃ texts, rowTexts reads (widths fullWidth tableColumns) f = .ok texts) ↔
      ∀ field ∈ markupFields f, ∃ shown, Markup.plain field.2.toList reads = .ok shown := by
  simp only [rowTexts_eq_ok_iff, markupFields, List.forall_mem_cons]
  -- the severity and the line are shown as they are; the other four cells are markup
  constructor
  · rintro ⟨_, type, file, preview, hash, htype, hfile, hpreview, hhash, -⟩
    exact ⟨⟨type, htype⟩, ⟨file, hfile⟩, ⟨preview, hpreview⟩, ⟨hash, hhash⟩, by simp⟩
  · rintro ⟨⟨type, htype⟩, ⟨file, hfile⟩, ⟨preview, hpreview⟩, ⟨hash, hhash⟩, -⟩
    exact ⟨_, type, file, preview, hash, htype, hfile, hpreview, hhash, rfl⟩

/-- The slots of the row with these texts. -/
def blockOf (texts : List (List Char)) : List (List (List Char)) :=
  let ws := widths fullWidth tableColumns
  slotsOf ws (cellsOf tableColumns ws texts)

/-- A row has at least one line, and each line has all columns. -/
private theorem isBlock_blockOf {texts : List (List Char)}
    (h : texts.length = tableColumns.length) :
    IsBlock (blockOf texts) := by
  have hlength := Table.length_widths fullWidth tableColumns
  refine ⟨?_, fun slots hslots => ?_⟩
  · -- a block has one line at least
    have hheight : ∀ cells, Table.heightOf cells ≠ 0 :=
      fun cells => Nat.one_le_iff_ne_zero.1 (le_max_left _ _)
    simp [blockOf, slotsOf, hheight]
  · obtain ⟨i, -, rfl⟩ := List.mem_map.1 hslots
    simp [cellsOf, hlength, h]

/-- The pieces of a field in its column are its plain text. -/
private theorem flatten_piecesIn_blockOf {f : Finding} {texts : List (List Char)}
    (h : rowTexts reads (widths fullWidth tableColumns) f = .ok texts) {field : Nat × String}
    (hfield : field ∈ markupFields f) {shown : List Char}
    (hshown : Markup.plain field.2.toList reads = .ok shown)
    (hblank : ∀ c ∈ shown, Text.isBlank c = false) :
    (piecesIn field.1 (blockOf texts)).flatten = shown := by
  obtain ⟨type, file, preview, hash, htype, hfile, hpreview, hhash, rfl⟩ :=
    rowTexts_eq_ok_iff.1 h
  rw [blockOf, widths_fullWidth]
  simp only [markupFields, List.mem_cons, List.not_mem_nil, or_false] at hfield
  -- the column of a field is told by its number, and so is the width of the column
  rcases hfield with rfl | rfl | rfl | rfl
  · obtain rfl := Except.ok.inj (htype.symm.trans hshown)
    exact @Table.flatten_piecesIn _ rfl rfl _ _ 1 22 _ (by omega) rfl rfl hblank
  · obtain rfl := Except.ok.inj (hfile.symm.trans hshown)
    exact @Table.flatten_piecesIn _ rfl rfl _ _ 2 42 _ (by omega) rfl rfl hblank
  · obtain rfl := Except.ok.inj (hpreview.symm.trans hshown)
    exact @Table.flatten_piecesIn _ rfl rfl _ _ 4 16 _ (by omega) rfl rfl hblank
  · obtain rfl := Except.ok.inj (hhash.symm.trans hshown)
    exact @Table.flatten_piecesIn _ rfl rfl _ _ 5 76 _ (by omega) rfl rfl hblank

/-- A table is its head, the rows of the findings and its foot. -/
private theorem table_eq_ok_iff {findings : List Finding} (hne : findings ≠ []) {output : String} :
    table fullWidth findings reads = .ok output ↔
      ∃ rows, List.Forall₂
          (fun f texts => rowTexts reads (widths fullWidth tableColumns) f = .ok texts)
          findings rows ∧
        output = Table.printed fullWidth (Table.head fullWidth tableColumns) ++
          printedRows (rows.map blockOf) ++
          Table.printed fullWidth (Table.foot fullWidth tableColumns) := by
  -- the columns leave so much room that no line of a row is cut
  have hroom : ((widths fullWidth tableColumns).map (· + 6)).sum + 4 ≤ fullWidth := by decide
  have htable : table fullWidth findings reads =
      (findings.mapM (rowTexts reads (widths fullWidth tableColumns)) >>= fun rows =>
        .ok (Table.printed fullWidth (Table.lines fullWidth tableColumns rows))) := by
    have hempty : findings.isEmpty = false := List.isEmpty_eq_false_iff.2 hne
    rw [table, hempty]
    rfl
  have hprinted : ∀ rows, List.Forall₂
      (fun f texts => rowTexts reads (widths fullWidth tableColumns) f = .ok texts) findings rows →
      Table.printed fullWidth (Table.lines fullWidth tableColumns rows) =
        Table.printed fullWidth (Table.head fullWidth tableColumns) ++
          printedRows (rows.map blockOf) ++
          Table.printed fullWidth (Table.foot fullWidth tableColumns) := by
    intro rows hrows
    refine Table.printed_lines hroom ?_
    clear hne htable
    induction hrows with
    | nil => simp
    | cons htexts hrest ih =>
      obtain ⟨type, file, preview, hash, -, -, -, -, rfl⟩ := rowTexts_eq_ok_iff.1 htexts
      exact List.forall_mem_cons.2 ⟨rfl, ih⟩
  rw [htable]
  constructor
  · intro h
    cases hmap : findings.mapM (rowTexts reads (widths fullWidth tableColumns)) with
    | error e =>
      rw [hmap] at h
      exact nomatch h
    | ok rows =>
      rw [hmap] at h
      have hrows := mapM_eq_ok_iff.1 hmap
      exact ⟨rows, hrows, (Except.ok.inj h).symm.trans (hprinted rows hrows)⟩
  · rintro ⟨rows, hrows, rfl⟩
    rw [mapM_eq_ok_iff.2 hrows, ok_bind, hprinted rows hrows]

/-- There is a table if the markup of each field of each finding is well-formed. -/
theorem exists_table_eq_ok_iff {findings : List Finding} (hne : findings ≠ []) :
    (∃ output, table fullWidth findings reads = .ok output) ↔
      ∀ f ∈ findings, ∀ field ∈ markupFields f,
        ∃ shown, Markup.plain field.2.toList reads = .ok shown := by
  -- a table is as good as the texts of all rows
  simp only [← exists_rowTexts_eq_ok_iff, table_eq_ok_iff hne, ← mapM_eq_ok_iff]
  constructor
  · rintro ⟨_, rows, hrows, -⟩
    exact exists_eq_ok_of_mapM hrows
  · intro h
    obtain ⟨rows, hrows⟩ := exists_mapM_eq_ok h
    exact ⟨_, rows, hrows, rfl⟩

/-- The rows of a table show the plain texts of the fields. -/
private theorem hasRows_of_table {findings : List Finding} (hne : findings ≠ []) {output : String}
    (h : table fullWidth findings reads = .ok output) :
    HasRows output findings fun f block => ∀ field ∈ markupFields f, ∀ shown,
      Markup.plain field.2.toList reads = .ok shown → (∀ c ∈ shown, Text.isBlank c = false) →
      (piecesIn field.1 block).flatten = shown := by
  obtain ⟨rows, hrows, heq⟩ := (table_eq_ok_iff hne).1 h
  refine ⟨rows.map blockOf, heq, List.forall₂_map_right_iff.2 (hrows.imp ?_)⟩
  intro f texts htexts
  -- each cell is folded over the lines of its block, and its pieces put together again
  refine ⟨isBlock_blockOf ?_, fun field hfield shown hshown hblank =>
    flatten_piecesIn_blockOf htexts hfield hshown hblank⟩
  obtain ⟨type, file, preview, hash, -, -, -, -, rfl⟩ := rowTexts_eq_ok_iff.1 htexts
  rfl

/-- One path that begins with a closing tag, and no finding is printed. -/
theorem table_ne_ok_of_closingTag {findings : List Finding} {f : Finding} (hf : f ∈ findings)
    {field : Nat × String} (hfield : field ∈ markupFields f) {name after : List Char}
    (htext : field.2.toList = '[' :: '/' :: (name ++ ']' :: after))
    (hplain : ∀ c ∈ name, Markup.isPlain c = true) (hvalue : '=' ∉ name)
    (hname : Markup.Style.trimmed name ≠ []) (output : String) :
    table fullWidth findings reads ≠ .ok output := by
  intro h
  -- if there were a table, the field would be printed; but its tag closes nothing
  obtain ⟨shown, hshown⟩ :=
    (exists_table_eq_ok_iff (List.ne_nil_of_mem hf)).1 ⟨output, h⟩ f hf field hfield
  rw [htext, Markup.plain_closingTag hplain hvalue hname] at hshown
  exact nomatch hshown

/-- When there is a table of findings, what its rows show, and which fields they show as they
are. -/
theorem table_printed {findings : List Finding} (hne : findings ≠ []) :
    ((∃ output, table fullWidth findings reads = .ok output) ↔
      ∀ f ∈ findings, ∀ field ∈ markupFields f,
        ∃ shown, Markup.plain field.2.toList reads = .ok shown) ∧
    (∀ output, table fullWidth findings reads = .ok output →
      HasRows output findings fun f block => ∀ field ∈ markupFields f, ∀ shown,
        Markup.plain field.2.toList reads = .ok shown → (∀ c ∈ shown, Text.isBlank c = false) →
        (piecesIn field.1 block).flatten = shown) ∧
    ((∀ f ∈ findings, ∀ field ∈ markupFields f,
        IsSolid field.2.toList ∧ Markup.IsLiteral field.2.toList) →
      ∃ output, table fullWidth findings reads = .ok output ∧
        HasRows output findings fun f block => ∀ field ∈ markupFields f,
          (piecesIn field.1 block).flatten = field.2.toList) := by
  refine ⟨exists_table_eq_ok_iff hne, fun output h => hasRows_of_table hne h, fun hfields => ?_⟩
  -- fields that are no markup are their own plain texts
  have hplain : ∀ f ∈ findings, ∀ field ∈ markupFields f,
      Markup.plain field.2.toList reads = .ok field.2.toList := by
    intro f hf field hfield
    obtain ⟨hsolid, hliteral⟩ := hfields f hf field hfield
    exact Markup.plain_of_isLiteral hliteral fun c hc => isDropped_of_not_isControl (hsolid c hc).2
  obtain ⟨output, houtput⟩ :=
    (exists_table_eq_ok_iff hne).2 fun f hf field hfield => ⟨_, hplain f hf field hfield⟩
  obtain ⟨blocks, heq, hrows⟩ := hasRows_of_table hne houtput
  have hfields := (List.forall₂_and_left findings blocks).2
    ⟨fun f hf => And.intro (hplain f hf) (hfields f hf), hrows⟩
  refine ⟨output, houtput, blocks, heq, hfields.imp ?_⟩
  rintro f block ⟨⟨hshown, hsolid⟩, hblock, hpieces⟩
  refine ⟨hblock, fun field hfield => ?_⟩
  exact hpieces field hfield _ (hshown field hfield) fun c hc => ((hsolid field hfield).1 c hc).1

/-- An ordinary finding is shown with its path and its preview. -/
theorem table_printed_ordinaryPath : ∃ f : Finding, f.file = "src/app.ts" ∧
    f.matchPreview = "****DEFG" ∧ [f] ≠ [] ∧
    ∃ output, table fullWidth [f] = .ok output ∧
      HasRows output [f] fun f block => ∀ field ∈ markupFields f,
        (piecesIn field.1 block).flatten = field.2.toList := by
  refine ⟨⟨.high, "aws_access_key", "src/app.ts", 3, 7, "****DEFG", "sha256:0123", "", "", 90⟩,
    rfl, rfl, List.cons_ne_nil _ _, (table_printed (List.cons_ne_nil _ _)).2.2 ?_⟩
  -- texts without brackets and with one colon at most are no markup
  have hliteral : ∀ text : String, IsSolid text.toList ∧ '[' ∉ text.toList ∧
      text.toList.count ':' ≤ 1 → IsSolid text.toList ∧ Markup.IsLiteral text.toList :=
    fun text h => ⟨h.1, Markup.isLiteral_of_noBracket h.2.1 h.2.2⟩
  intro f hf field hfield
  obtain rfl := List.mem_singleton.1 hf
  simp only [markupFields, List.mem_cons, List.not_mem_nil, or_false] at hfield
  rcases hfield with rfl | rfl | rfl | rfl
  · exact hliteral "aws_access_key" (by simp [IsSolid, Text.isBlank, isControl])
  · exact hliteral "src/app.ts" (by simp [IsSolid, Text.isBlank, isControl])
  · exact hliteral "****DEFG" (by simp [IsSolid, Text.isBlank, isControl])
  · exact hliteral "sha256:0123" (by simp [IsSolid, Text.isBlank, isControl])

end SecretScan.Report
