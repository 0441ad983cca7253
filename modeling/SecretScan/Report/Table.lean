import SecretScan.Finding
import SecretScan.Markup
import SecretScan.Table

/-!
# The table of findings

Findings as a table for a terminal, one row each in the order given. What comes from files and rules
is markup; wrong markup in a cell that has room spoils the whole table.
-/

namespace SecretScan.Report

/-- The columns of the table. -/
def tableColumns : List Table.Column :=
  [ { header := "Severity", width := 10 },
    { header := "Type", width := 20, overflow := .fold },
    { header := "File", width := 40, overflow := .fold },
    { header := "Line", width := 8, alignment := .right },
    { header := "Match", width := 14, overflow := .fold },
    { header := "Hash", width := 74, overflow := .fold } ]

/-- What a cell holds. -/
inductive Content where
  /-- Text that is shown as it is. -/
  | verbatim (text : String)
  | markup (text : String)
  deriving DecidableEq, Repr

/-- The text of a cell. Markup is only looked at where there is room for it. -/
def Content.text (reads : List Char → Bool) (hasRoom : Bool) :
    Content → Except Markup.Error (List Char)
  | .verbatim text => .ok (Markup.printed text.toList)
  | .markup text => if hasRoom then Markup.plain text.toList reads else .ok []

/-- What the cells of a row hold. -/
def tableRow (f : Finding) : List Content :=
  [ .verbatim (String.ofList (Text.uppered f.severity.name.toList)),
    .markup f.type,
    .markup f.file,
    .markup (toString f.line),
    .markup f.matchPreview,
    .markup f.hash ]

/-- The texts of the cells of a row in columns of these widths. -/
def rowTexts (reads : List Char → Bool) (widths : List Nat) (f : Finding) :
    Except Markup.Error (List (List Char)) :=
  (widths.zip (tableRow f)).mapM fun (w, content) => content.text reads (Table.hasRoom w)

/-- What is printed where there are no findings. -/
def nothingFound : String :=
  "No secrets detected."

/-- The table of findings on a terminal of a width, where these arguments of actions can be read. -/
def table (width : Nat) (findings : List Finding)
    (reads : List Char → Bool := Markup.isArguments) : Except Markup.Error String := do
  if findings.isEmpty then
    return Table.printed width (Text.wrap width .fold nothingFound.toList)
  let rows ← findings.mapM (rowTexts reads (Table.widths width tableColumns))
  return Table.printed width (Table.lines width tableColumns rows)

end SecretScan.Report
