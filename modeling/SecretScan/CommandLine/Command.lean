import SecretScan.CommandLine.Reading
import SecretScan.Log

/-!
# Commands

What the program can be asked to do, and the grammars of its command lines. `Request.ofArguments`
says what the arguments of a run ask for.
-/

namespace SecretScan.CommandLine

/-- How findings are printed. -/
inductive OutputFormat where
  | text
  | json
  | sarif
  deriving DecidableEq, Repr, Inhabited

/-- The formats by their names. -/
def OutputFormat.named : List (String × OutputFormat) :=
  [("text", .text), ("json", .json), ("sarif", .sarif)]

/-- A scan that is asked for. Options that were not given are absent. -/
structure ScanCommand where
  root : String := "."
  format : OutputFormat := .text
  /-- Where the report is written to. -/
  out : Option String := none
  /-- Where the SARIF document is written to. -/
  sarifOut : Option String := none
  severity : Option String := none
  entropy : Option String := none
  maxFindings : Option String := none
  maxFileSize : Option String := none
  ignoreFile : Option String := none
  patterns : List String := []
  config : Option String := none
  progress : Bool := false
  redact : Bool := false
  verbose : Bool := false
  logFormat : LogFormat := .text
  deriving DecidableEq, Repr

/-- What the program does. -/
inductive Command where
  | help
  | version
  | scan (c : ScanCommand)
  deriving DecidableEq, Repr

/-- The name of the program. -/
def programName : String :=
  "leaksniff"

/-- The grammar of the version command. -/
def versionGrammar : Grammar where
  program := programName ++ " version"
  options := [helpOption]
  operand := .none

/-- The grammar of the scan command. -/
def scanGrammar : Grammar where
  program := programName ++ " scan"
  options := [
    helpOption,
    { names := ["--format"]
      kind := .value (OutputFormat.named.map (·.1))
      help := "output format (default: text)" },
    { names := ["--json"], help := "shortcut for --format json" },
    { names := ["--out"], kind := .value [], help := "write JSON report to a file" },
    { names := ["--sarif-out"], kind := .value [], help := "write SARIF report to a file" },
    { names := ["--severity"]
      kind := .value []
      help := "severity threshold (low|med|high, default: med)" },
    { names := ["--entropy"], kind := .value [], help := "entropy threshold override" },
    { names := ["--max-findings"], kind := .value [], help := "stop after N findings" },
    { names := ["--max-file-size"], kind := .value [], help := "max file size in bytes" },
    { names := ["--ignore-file"], kind := .value [], help := "ignore file (gitignore-style)" },
    { names := ["--ignore-regex"]
      kind := .value []
      help := "regex to suppress matches (repeatable)" },
    { names := ["--config"], kind := .value [], help := "path to a .leaksniff.yml config file" },
    { names := ["--progress"], help := "show progress indicator" },
    { names := ["--redact"], help := "fully redact values in JSON" },
    { names := ["--verbose"], help := "debug logging on stderr" },
    { names := ["--log-format"]
      kind := .value ["text", "json"]
      help := "log line format (default: text)" }]
  operand := .optional "root" "path to scan"

/-- The grammar of the program. -/
def mainGrammar : Grammar where
  program := programName
  description := some "leaksniff - scan a local folder for hardcoded secrets"
  options := [
    helpOption,
    { names := ["-v", "--version"], help := "print version and exit" }]
  operand := .command "cmd"
    [("version", "print version"), ("scan", "scan a folder or a single file")]

/-- The scan that the arguments ask for. -/
def ScanCommand.ofReading (r : Reading) : ScanCommand where
  root := (r.operand.bind List.head?).getD "."
  format :=
    if r.isSet "--json" then .json
    else ((r.value? "--format").bind fun n => OutputFormat.named.lookup n).getD .text
  out := r.value? "--out"
  sarifOut := r.value? "--sarif-out"
  severity := r.value? "--severity"
  entropy := r.value? "--entropy"
  maxFindings := r.value? "--max-findings"
  maxFileSize := r.value? "--max-file-size"
  ignoreFile := r.value? "--ignore-file"
  patterns := r.valuesOf "--ignore-regex"
  config := r.value? "--config"
  progress := r.isSet "--progress"
  redact := r.isSet "--redact"
  verbose := r.isSet "--verbose"
  logFormat := .ofName ((r.value? "--log-format").getD "")

/-- What the arguments of a run ask for. -/
inductive Request where
  | run (c : Command)
  /-- The help text of a grammar. -/
  | showHelp (g : Grammar)
  /-- The arguments are wrong for a grammar. -/
  | misuse (g : Grammar) (m : Misuse)

/-- The request when reading by a grammar stops. -/
def Request.ofStop (g : Grammar) : Stop → Request
  | .help => .showHelp g
  | .misuse m => .misuse g m

/-- The request, unless there is something that was not understood. -/
def Request.unless (extras : List String) (c : Command) : Request :=
  if extras.isEmpty then .run c else .misuse mainGrammar (.unrecognized extras)

/-- What the arguments of a run ask for. -/
def Request.ofArguments (arguments : List String) : Request :=
  match mainGrammar.read arguments with
  | .error stop => .ofStop mainGrammar stop
  | .ok main =>
    let plain := if main.isSet "--version" then Command.version else .help
    match main.operand with
    | some (name :: rest) =>
      let isScan := name == "scan"
      let grammar := if isScan then scanGrammar else versionGrammar
      match grammar.read rest with
      | .error stop => .ofStop grammar stop
      | .ok r =>
        let command :=
          if main.isSet "--version" || !isScan then .version else .scan (.ofReading r)
        .unless (main.extras ++ r.extras) command
    | _ => .unless main.extras plain

end SecretScan.CommandLine
