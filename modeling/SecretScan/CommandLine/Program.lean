import SecretScan.CommandLine.Command
import SecretScan.CommandLine.Help
import SecretScan.Report.Table
import SecretScan.Sarif
import SecretScan.Scan

/-!
# The program

A run of the program as a pure function of its surroundings: what it prints, what it notes on the
error stream, what it leaves on the disk, and how it ends. The status of a scan tells whether
something was found; a run that cannot be done prints nothing and writes nothing.
-/

namespace SecretScan.CommandLine

/-- What a run finds around it. -/
structure Surroundings where
  disk : Disk
  /-- The current directory. -/
  cwd : Path
  /-- The variables of the environment. -/
  environment : List (String × String) := []
  /-- The time when a scan starts, in seconds. -/
  start : Float := 0
  /-- The time when a scan ends, in seconds. -/
  stop : Float := 0
  /-- How files are scanned. Nothing else depends on whether several are scanned at once. -/
  scan : Scan.Scanner := Scan.oneByOne

namespace Surroundings

/-- The value of a variable of the environment. -/
def valueOf? (s : Surroundings) (name : String) : Option String :=
  s.environment.lookup name

/-- The width of a terminal that tells none. -/
def defaultWidth : Nat := 80

/-- The width of the terminal for tables. -/
def tableWidth (s : Surroundings) : Nat :=
  match s.valueOf? "COLUMNS" with
  | some text =>
    if !text.isEmpty && text.toList.all Text.isDecimal then
      ((Decimal.readWhole? text.toList).getD defaultWidth).toNat
    else defaultWidth
  | none => defaultWidth

/-- The width of help texts: two less than that of the terminal. -/
def helpWidth (s : Surroundings) : Int :=
  let told := ((s.valueOf? "COLUMNS").bind fun text => Decimal.readWhole? text.toList).getD 0
  (if 0 < told then told else defaultWidth) - 2

/-- How long the scan took, in milliseconds. -/
def duration (s : Surroundings) : Int :=
  match Decimal.BinaryFraction.ofFloat? ((s.stop - s.start) * 1000) with
  | some x => x.truncated
  | none => 0

/-- The job that a run is part of. -/
def job (s : Surroundings) : Sarif.Job where
  run := (s.valueOf? "GITHUB_RUN_ID").getD "local"
  job := (s.valueOf? "GITHUB_JOB").getD "job"
  attempt := (s.valueOf? "GITHUB_RUN_ATTEMPT").getD "1"

end Surroundings

/-- How a run ends. -/
inductive Status where
  /-- Nothing was found, or nothing was scanned. -/
  | clean
  | findings
  /-- The run could not be done. -/
  | error
  deriving DecidableEq, Repr

/-- The number of a status. -/
def Status.code : Status → Nat
  | .clean => 0
  | .findings => 1
  | .error => 2

/-- A failure that breaks a run off. -/
inductive Failure where
  | settings (e : SettingsError)
  | unwritable (file : String) (e : IoError)
  | markup (e : Markup.Error)
  | unconvertible (e : Sarif.Error)

/-- How a run comes to its end. -/
inductive Ending where
  | returned (s : Status)
  /-- The run is over once the arguments have been read. -/
  | dismissed (s : Status)
  | brokenOff (f : Failure)

/-- Something noted on the error stream. -/
inductive Notice where
  | text (s : String)
  | record (format : LogFormat) (r : LogRecord)
  deriving DecidableEq, Repr

/-- What comes of a run. -/
structure Outcome where
  ending : Ending
  /-- What is printed. -/
  output : String := ""
  notices : List Notice := []
  /-- The files as the run leaves them. -/
  tree : FileTree

/-- The notices of events. -/
def noticesOf (logger : Logger) (events : List Event) : List Notice :=
  (logger.written (events.map Event.toRecord)).map (.record logger.format)

/-- A line of a notice. -/
def noticeLine (s : String) : Notice :=
  .text (s ++ "\n")

namespace ScanCommand

/-- How the scan logs. -/
def logger (c : ScanCommand) : Logger :=
  .make c.verbose c.logFormat

/-- An option of the command line, or else of the settings. -/
def pick (given : Option String) (setting : Option Value) : Value :=
  match given with
  | some text => .text text
  | none => setting.getD .null

/-- What the scan is asked to do. Patterns of the settings and of the command line add up. -/
def request (c : ScanCommand) (s : Settings) : ScanRequest where
  severity := pick c.severity s.severity
  entropy := pick c.entropy s.entropy
  maxFindings := pick c.maxFindings s.maxFindings
  maxFileSize := pick c.maxFileSize s.maxFileSize
  ignoreFile := pick c.ignoreFile s.ignoreFile
  patterns := .list ((s.patterns.getD [] ++ c.patterns.map Text.Wide.wellFormed).map .text)
  progress := .bool c.progress

end ScanCommand

/-- Writes a document to a file, if one is named. -/
def writeDocument (cwd : Path) (named : Option String) (document : Json) (t : FileTree) :
    Except Failure FileTree :=
  match Settings.given? named with
  | none => .ok t
  | some name =>
    let content : ByteArray := ⟨(Text.Utf8.encode document.pretty).toArray⟩
    match t.write (Path.under cwd name) content with
    | .ok t => .ok t
    | .error e => .error (.unwritable (Path.plain name) e)

/-- What a scan leaves to be exported: its report, and the SARIF document of that report. -/
structure Export where
  findings : List Finding
  report : Json
  sarif : Except Sarif.Error Json

/-- What a scan leaves to be exported. -/
def Export.ofProgress (s : Surroundings) (c : ScanCommand) (root : Path) (p : Scan.Progress) :
    Export :=
  let report := Report.toJson {
    version := Report.toolVersion
    scannedPath := root.text
    summary := ⟨p.collector.filesScanned, p.findings.length, s.duration⟩
    findings := p.findings
    redacted := c.redact }
  ⟨p.findings, report, Sarif.ofReport s.job report⟩

/-- The SARIF document. -/
def Export.sarifDocument (e : Export) : Except Failure Json :=
  e.sarif.mapError .unconvertible

/-- Writes the files that are asked for, the report first; says what was written before a
failure. -/
def Export.write (e : Export) (cwd : Path) (c : ScanCommand) (t : FileTree) :
    FileTree × Except Failure Unit :=
  match writeDocument cwd c.out e.report t with
  | .error f => (t, .error f)
  | .ok t =>
    if (Settings.given? c.sarifOut).isNone then (t, .ok ())
    else
      match e.sarifDocument with
      | .error f => (t, .error f)
      | .ok document =>
        match writeDocument cwd c.sarifOut document t with
        | .error f => (t, .error f)
        | .ok t => (t, .ok ())

/-- What is printed. -/
def Export.printed (e : Export) (format : OutputFormat) (width : Nat) : Except Failure String :=
  match format with
  | .json => .ok (e.report.pretty ++ "\n")
  | .sarif => do return (← e.sarifDocument).pretty ++ "\n"
  | .text => (Report.table width e.findings).mapError .markup

/-- The status of a scan that was done. -/
def Export.status (e : Export) : Status :=
  if e.findings.isEmpty then .clean else .findings

/-- Exports what a scan leaves. -/
def Export.run (e : Export) (s : Surroundings) (c : ScanCommand) (notices : List Notice) :
    Outcome :=
  match e.write s.cwd c s.disk.tree with
  | (tree, .error f) => { ending := .brokenOff f, notices, tree }
  | (tree, .ok ()) =>
    match e.printed c.format s.tableWidth with
    | .error f => { ending := .brokenOff f, notices, tree }
    | .ok output => { ending := .returned e.status, output, notices, tree }

/-- A run that ends without having printed or written anything. -/
def refused (s : Surroundings) (ending : Ending) (notices : List Notice) : Outcome :=
  { ending, notices, tree := s.disk.tree }

/-- The end of a run whose settings cannot be used. -/
def refusedSettings (s : Surroundings) (notices : List Notice) (e : SettingsError) : Outcome :=
  match e with
  | .refused r =>
    refused s (.returned .error) (notices ++ [noticeLine ("CONFIG ERROR: " ++ r.text)])
  | e => refused s (.brokenOff (.settings e)) notices

/-- The event of having loaded settings. -/
def settingsEvent (file : Option Path) : Event :=
  match file with
  | some path => .settingsLoaded path.text
  | none => .defaultSettings

/-- Scans what is asked for, below a root that exists. -/
def scanBelow (s : Surroundings) (c : ScanCommand) (root : Path) : Outcome :=
  match Settings.load s.disk.tree s.cwd c.config root.text with
  | .error e => refusedSettings s [] e
  | .ok (file, settings) =>
    let events := [settingsEvent file]
    match ScanOptions.ofRequest s.disk.tree s.cwd root.text (c.request settings) with
    | .error e => refusedSettings s (noticesOf c.logger events) e
    | .ok options =>
      match s.scan s.disk s.cwd options with
      | .error fault =>
        refused s (.returned .error) (noticesOf c.logger (events ++ [.scanAborted]) ++
          [noticeLine ("Error during scan: " ++ fault)])
      | .ok p =>
        (Export.ofProgress s c root p).run s c (noticesOf c.logger (events ++ p.events))

/-- Scans what is asked for. -/
def runScan (s : Surroundings) (c : ScanCommand) : Outcome :=
  let host := s.disk.tree.host
  match host.resolve s.cwd c.root with
  | .error e => refused s (.brokenOff (.settings (.unresolvable e))) []
  | .ok root =>
    match host.exists? root with
    | .error e => refused s (.brokenOff (.settings (.inaccessible e))) []
    | .ok true => scanBelow s c root
    | .ok false =>
      refused s (.returned .error) [noticeLine (Refusal.message (.pathNotFound root.text))]

/-- Does what the arguments ask for. -/
def runRequest (s : Surroundings) (r : Request) : Outcome :=
  let width := s.helpWidth
  let tree := s.disk.tree
  match r with
  | .showHelp g => { ending := .dismissed .clean, output := g.help width, tree }
  | .misuse g m =>
    refused s (.dismissed .error) [
      noticeLine (g.usage width),
      noticeLine (g.program ++ ": error: " ++ m.message)]
  | .run .help => { ending := .returned .clean, output := mainGrammar.help width, tree }
  | .run .version => { ending := .returned .clean, output := Report.toolVersion ++ "\n", tree }
  | .run (.scan c) => runScan s c

/-- Runs the program. -/
def run (s : Surroundings) (arguments : List String) : Outcome :=
  runRequest s (.ofArguments arguments)

end SecretScan.CommandLine
