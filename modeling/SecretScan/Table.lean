import SecretScan.Text.Wrapping

/-!
# Tables

A table of texts, drawn with lines between the columns and around the whole. Columns have a width of
their own; where the table does not fit they are narrowed one after the other, and a column that is
left without room is not shown, only its borders are.
-/

namespace SecretScan

namespace Table

/-- To which side the texts of a column are moved. -/
inductive Alignment where
  | left
  | right
  deriving DecidableEq, Repr

/-- A column of a table. -/
structure Column where
  header : String
  /-- The width of its texts. -/
  width : Nat
  overflow : Text.Overflow := .ellipsis
  alignment : Alignment := .left
  deriving Repr

/-- How many blanks stand on either side of a text. -/
def padding : Nat := 1

/-- The width of a column together with the blanks on both sides. -/
def Column.outerWidth (c : Column) : Nat :=
  c.width + 2 * padding

/-- Narrows columns by an excess, each by its share of what is left, as far as it can be. -/
def narrow : Nat → List Nat → List Nat
  | _, [] => []
  | excess, w :: rest =>
    let taken := min w (excess / (rest.length + 1))
    (w - taken) :: narrow (excess - taken) rest

/-- The widths of the columns, blanks included, in a table of a width. -/
def widths (width : Nat) (columns : List Column) : List Nat :=
  let available := width - (columns.length + 1)
  let wanted := columns.map fun c => max 1 (min c.outerWidth available)
  let total := wanted.foldr (· + ·) 0
  if total ≤ available then wanted else narrow (total - available) wanted

/-- A line of a text, moved to its side and cut or filled up to a width. -/
def Column.align (c : Column) (width : Nat) (line : List Char) : List Char :=
  match c.alignment with
  | .left => Text.fitCells width (Text.cutLine width c.overflow line)
  | .right =>
    let line := Text.cutLine width c.overflow (Text.trimEndBlanks line)
    List.replicate (width - Text.cells line) ' ' ++ line

/-- The lines of a text in a column. -/
def Column.lines (c : Column) (width : Nat) (text : List Char) : List (List Char) :=
  (Text.layLines width c.overflow text).map (c.align width)

/-- Has a column of this width, blanks included, room for text? -/
def hasRoom (outer : Nat) : Bool :=
  2 * padding < outer

/-- The lines of a cell of a width, blanks included. -/
def Column.cell (c : Column) (outer : Nat) (text : List Char) : List (List Char) :=
  let blanks := List.replicate padding ' '
  if hasRoom outer then
    (c.lines (outer - 2 * padding) text).map fun line => blanks ++ line ++ blanks
  else []

/-- A line across the table: its ends, what it is made of, and where it meets other lines. -/
structure Border where
  first : Char
  stroke : Char
  crossing : Char
  last : Char
  deriving Repr

/-- The border above the headers. -/
def topBorder : Border := ⟨'┏', '━', '┳', '┓'⟩

/-- The border below the headers. -/
def headBorder : Border := ⟨'┡', '━', '╇', '┩'⟩

/-- The border below the rows. -/
def bottomBorder : Border := ⟨'└', '─', '┴', '┘'⟩

/-- A border over columns. -/
def Border.line (b : Border) (widths : List Nat) : List Char :=
  let strokes := widths.map fun w => List.replicate w b.stroke
  b.first :: [b.crossing].intercalate strokes ++ [b.last]

/-- Lines of a cell, filled up with blank ones to a height. -/
def fillHeight (height width : Nat) (atBottom : Bool) (lines : List (List Char)) :
    List (List Char) :=
  let blank := List.replicate (height - lines.length) (List.replicate width ' ')
  if atBottom then blank ++ lines else lines ++ blank

/-- The lines of a row whose cells stand side by side. -/
def rowLines (separator : Char) (atBottom : Bool) (widths : List Nat)
    (cells : List (List (List Char))) : List (List Char) :=
  let height := max 1 ((cells.map List.length).foldl max 0)
  let filled := (widths.zip cells).map fun (w, lines) => fillHeight height w atBottom lines
  (List.range height).map fun i =>
    separator :: [separator].intercalate (filled.map fun lines => lines.getD i []) ++ [separator]

/-- The cells of a row. -/
def cellsOf (columns : List Column) (widths : List Nat) (texts : List (List Char)) :
    List (List (List Char)) :=
  (columns.zip (widths.zip texts)).map fun (c, w, text) => c.cell w text

/-- The lines of a table. Headers stand at the bottom of their row, other cells at the top. -/
def lines (width : Nat) (columns : List Column) (rows : List (List (List Char))) :
    List (List Char) :=
  let ws := widths width columns
  let headers := cellsOf columns ws (columns.map (·.header.toList))
  [topBorder.line ws] ++ rowLines '┃' true ws headers ++ [headBorder.line ws] ++
    (rows.flatMap fun row => rowLines '│' false ws (cellsOf columns ws row)) ++
    [bottomBorder.line ws]

/-- Lines as they are printed on a terminal of a width. Nothing is printed where there is no
width. -/
def printed (width : Nat) (lines : List (List Char)) : String :=
  if width = 0 then ""
  else
    String.ofList (lines.flatMap fun line => Text.cutLine width .fold line ++ ['\n'])

end Table

end SecretScan
