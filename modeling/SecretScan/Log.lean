import SecretScan.Json
import SecretScan.Text.Lines

/-!
# Log records

What a run has to say besides its report: records with a level, each from a part of the program.
Records are written as lines of text or as JSON documents; a logger drops those below its level.
-/

namespace SecretScan

/-- How grave a record is. -/
inductive LogLevel where
  | debug
  | info
  | warning
  | error
  | critical
  deriving DecidableEq, Repr, Inhabited

namespace LogLevel

/-- All levels, the least grave first. -/
def all : List LogLevel :=
  [.debug, .info, .warning, .error, .critical]

/-- The name of a level. -/
def name : LogLevel → String
  | .debug => "DEBUG"
  | .info => "INFO"
  | .warning => "WARNING"
  | .error => "ERROR"
  | .critical => "CRITICAL"

/-- The level of this name. -/
def ofName? (name : String) : Option LogLevel :=
  all.find? (·.name == name)

/-- The number by which levels are compared. -/
def number : LogLevel → Nat
  | .debug => 10
  | .info => 20
  | .warning => 30
  | .error => 40
  | .critical => 50

end LogLevel

/-- Where in a program a record was made. -/
structure LogPlace where
  /-- The path of the file. -/
  file : String
  function : String
  line : Int
  deriving DecidableEq, Repr

/-- A record of a log. -/
structure LogRecord where
  level : LogLevel
  /-- The part of the program that speaks. -/
  logger : String
  message : String
  place : Option LogPlace := none
  /-- The description of a failure. -/
  failure : Option String := none
  deriving DecidableEq, Repr

/-- How records are written. -/
inductive LogFormat where
  | text
  | json
  deriving DecidableEq, Repr, Inhabited

namespace LogFormat

/-- The format of this name; every unknown name means text. -/
def ofName (name : String) : LogFormat :=
  if name == "json" then .json else .text

end LogFormat

namespace LogPlace

/-- The name of a file without its directory and its extension. -/
def moduleName (file : String) : String :=
  let name := ((Text.cutAt '/' file.toList).getLast?).getD []
  let tail := (name.reverse.takeWhile (· != '.')).reverse
  let dot := name.length - tail.length
  String.ofList (if dot ≤ 1 then name else name.take (dot - 1))

/-- The members of a JSON record that tell the place. -/
def members (p : LogPlace) : List (String × Json) :=
  [("module", .str (moduleName p.file)), ("function", .str p.function), ("line", .int p.line)]

end LogPlace

namespace LogRecord

/-- The record as a JSON document, with the time at which it was made. -/
def toJson (time : String) (r : LogRecord) : Json :=
  .obj (
    [("timestamp", .str time), ("level", .str r.level.name), ("logger", .str r.logger),
      ("message", .str r.message)] ++
    (r.place.map LogPlace.members).getD [] ++
    (r.failure.toList.map fun f => ("exception", .str f)))

/-- The record as a line of text. -/
def toText (time : String) (r : LogRecord) : String :=
  let head := time ++ " [" ++ r.level.name ++ "] " ++ r.message
  match r.failure with
  | none => head
  | some f => head ++ "\n" ++ f

/-- The line that is written for a record. -/
def line (format : LogFormat) (time : String) (r : LogRecord) : String :=
  match format with
  | .text => r.toText time
  | .json => (r.toJson time).compact

end LogRecord

/-- How a run logs. -/
structure Logger where
  level : LogLevel
  format : LogFormat
  deriving DecidableEq, Repr

namespace Logger

/-- The part of the program to which all others belong. -/
def rootName : String :=
  "leaksniff"

/-- The logger of a run: a talkative one writes all records, others those that warn. -/
def make (verbose : Bool) (format : LogFormat) : Logger :=
  ⟨if verbose then .debug else .warning, format⟩

/-- Is a part of the program, given by its name, one that the logger speaks for? -/
def covers (part : String) : Bool :=
  part == rootName || (rootName ++ ".").toList.isPrefixOf part.toList

/-- Is the record written? -/
def accepts (l : Logger) (r : LogRecord) : Bool :=
  l.level.number ≤ r.level.number

/-- The records that are written, in their order. -/
def written (l : Logger) (records : List LogRecord) : List LogRecord :=
  records.filter l.accepts

end Logger

end SecretScan
