import SecretScan.CommandLine.Grammar
import SecretScan.Text.Paragraph

/-!
# Help texts

The usage line of a grammar and its whole help text, laid out for a width. Explanations stand in a
column of their own, as far to the left as the names allow.
-/

namespace SecretScan.CommandLine

/-- Blanks. -/
def blanks (n : Nat) : String :=
  String.ofList (List.replicate n ' ')

/-- An option in the usage line. -/
def OptionSpec.usage (o : OptionSpec) : String :=
  let name := o.names.head?.getD ""
  match o.placeholder with
  | some p => "[" ++ name ++ " " ++ p ++ "]"
  | none => "[" ++ name ++ "]"

/-- The names of commands between braces. -/
def commandsText (commands : List (String × String)) : String :=
  OptionSpec.choicesText (commands.map (·.1))

/-- The operand in the usage line. -/
def Operand.usage : Operand → List String
  | .none => []
  | .optional name _ => ["[" ++ name ++ "]"]
  | .command _ commands => [commandsText commands, "..."]

/-- Parts of a usage line, broken into lines: the first one begins after `taken` characters, the
others after an indentation. -/
def breakParts (width : Int) (indent taken : Nat) (parts : List String) : List String :=
  let step := fun (state : List (List String) × List String × Nat) (part : String) =>
    let (done, line, length) := state
    if width < Int.ofNat (length + 1 + part.length) && !line.isEmpty then
      (done ++ [line], [part], indent + part.length)
    else (done, line ++ [part], length + part.length + 1)
  let (done, line, _) := parts.foldl step ([], [], taken - 1)
  (done ++ (if line.isEmpty then [] else [line])).map fun l => " ".intercalate l

/-- What a usage line begins with. -/
def usageLabel : String :=
  "usage: "

namespace Grammar

/-- The usage of a program. -/
def usage (g : Grammar) (width : Int) : String :=
  let options := g.options.map OptionSpec.usage
  let operands := g.operand.usage
  let whole := " ".intercalate (g.program :: options ++ operands)
  let label := usageLabel.length
  if Int.ofNat (label + whole.length) ≤ width then usageLabel ++ whole
  else
    let indented := fun (n : Nat) (lines : List String) => lines.map (blanks n ++ ·)
    let lines :=
      if 4 * Int.ofNat (label + g.program.length) ≤ 3 * width then
        let indent := label + g.program.length + 1
        match breakParts width indent label (g.program :: options) with
        | [] => []
        | first :: rest =>
          first :: indented indent (rest ++ breakParts width indent indent operands)
      else
        let together := breakParts width label label (options ++ operands)
        let apart :=
          breakParts width label label options ++ breakParts width label label operands
        g.program :: indented label (if together.length ≤ 1 then together else apart)
    usageLabel ++ "\n".intercalate lines

/-- A line of a help text: something that is explained, indented by its depth. -/
structure Row where
  indent : Nat
  label : String
  help : Option String

/-- How options are given. -/
def optionRow (o : OptionSpec) : Row :=
  let label := match o.placeholder with
    | some p => ", ".intercalate (o.names.map fun n => n ++ " " ++ p)
    | none => ", ".intercalate o.names
  ⟨2, label, some o.help⟩

/-- How the operand is given. -/
def operandRows : Operand → List Row
  | .none => []
  | .optional name help => [⟨2, name, some help⟩]
  | .command _ commands =>
    ⟨2, commandsText commands, none⟩ ::
      commands.map fun (name, help) => ⟨4, name, some help⟩

/-- The column in which explanations begin, given the room that the longest label takes. -/
def helpColumn (width : Int) (longest : Nat) : Nat :=
  min (longest + 2) (min 24 (max (width - 20) 4).toNat)

/-- The lines of a row. -/
def rowLines (width : Int) (column : Nat) (r : Row) : List String :=
  let label := blanks r.indent ++ r.label
  match r.help with
  | none => [label]
  | some help =>
    let room := (max (width - Int.ofNat column) 11).toNat
    let explanation := (Text.fill room help.toList).map String.ofList
    if label.length + 2 ≤ column then
      match explanation with
      | [] => [label]
      | first :: rest =>
        (label ++ blanks (column - label.length) ++ first) :: rest.map (blanks column ++ ·)
    else label :: explanation.map (blanks column ++ ·)

/-- A part of a help text under a heading. -/
def sectionText (width : Int) (column : Nat) (heading : String) (rows : List Row) : List String :=
  if rows.isEmpty then []
  else ["\n".intercalate ((heading ++ ":") :: rows.flatMap (rowLines width column))]

/-- The help text of a program. -/
def help (g : Grammar) (width : Int) : String :=
  let operands := operandRows g.operand
  let options := g.options.map optionRow
  let longest := ((operands ++ options).map fun r => r.label.length + 2).foldl max 0
  let column := helpColumn width longest
  let description := g.description.toList.map fun d =>
    "\n".intercalate ((Text.fill (max width 11).toNat d.toList).map String.ofList)
  "\n\n".intercalate (
    [g.usage width] ++ description ++
      sectionText width column "positional arguments" operands ++
      sectionText width column "options" options) ++ "\n"

end Grammar

end SecretScan.CommandLine
