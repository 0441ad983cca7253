/-!
# Grammars of command lines

A grammar says which options a program knows, which operand follows them, and what the help text
says about each.
-/

namespace SecretScan.CommandLine

/-- What an option does. -/
inductive OptionKind where
  /-- It asks for the help text. -/
  | help
  | flag
  /-- It takes a value: one of the choices, if there are any. -/
  | value (choices : List String)
  deriving DecidableEq, Repr

/-- An option. Only options without a value have a short name. -/
structure OptionSpec where
  /-- Its names, the long one last. -/
  names : List String
  kind : OptionKind := .flag
  help : String
  deriving DecidableEq, Repr

namespace OptionSpec

/-- The long name. -/
def name (o : OptionSpec) : String :=
  o.names.getLast?.getD ""

/-- All names, as messages show them. -/
def label (o : OptionSpec) : String :=
  "/".intercalate o.names

/-- The choices between braces. -/
def choicesText (choices : List String) : String :=
  "\x7b" ++ ",".intercalate choices ++ "\x7d"

/-- What stands for the value of the option in the help text: its choices, or its long name in
capitals. -/
def placeholder (o : OptionSpec) : Option String :=
  match o.kind with
  | .value [] =>
    some (String.ofList ((o.name.toList.drop 2).map fun c => if c == '-' then '_' else c.toUpper))
  | .value choices => some (choicesText choices)
  | _ => none

end OptionSpec

/-- What follows the options of a program. -/
inductive Operand where
  | none
  /-- An operand that may be left out. -/
  | optional (name help : String)
  /-- One of some commands, and whatever follows it. -/
  | command (name : String) (commands : List (String × String))
  deriving DecidableEq, Repr

/-- The grammar of a command line. -/
structure Grammar where
  program : String
  description : Option String := .none
  options : List OptionSpec
  operand : Operand
  deriving Repr

/-- The option that asks for help, which every program has. -/
def helpOption : OptionSpec where
  names := ["-h", "--help"]
  kind := .help
  help := "show this help message and exit"

namespace Grammar

/-- All options with their names, in order. -/
def named (g : Grammar) : List (String × OptionSpec) :=
  g.options.flatMap fun o => o.names.map fun n => (n, o)

/-- The option of this name. -/
def option? (g : Grammar) (name : String) : Option OptionSpec :=
  g.named.lookup name

end Grammar

end SecretScan.CommandLine
