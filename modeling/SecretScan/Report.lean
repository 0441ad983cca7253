import SecretScan.Finding

/-!
# Reports

The report of a scan as a JSON document: what was scanned, how much of it, and what was found. A
redacted report says of each finding where it is, and hides its preview and its context.
-/

namespace SecretScan

/-- The numbers of a scan. -/
structure ScanSummary where
  filesScanned : Int := 0
  findings : Int := 0
  /-- How long the scan took, in milliseconds. -/
  duration : Int := 0
  deriving DecidableEq, Repr

/-- The numbers as reports write them. -/
def ScanSummary.toJson (s : ScanSummary) : Json :=
  .obj [
    ("filesScanned", .int s.filesScanned),
    ("findings", .int s.findings),
    ("durationMs", .int s.duration)]

/-- A report on a scan. -/
structure Report where
  version : String
  scannedPath : String
  summary : ScanSummary
  findings : List Finding
  redacted : Bool := false

namespace Report

/-- The name of the program, as reports write it. -/
def toolName : String :=
  "leaksniff"

/-- The version of the program. -/
def toolVersion : String :=
  "0.3.0"

/-- The findings as the report writes them. -/
def findingsJson (r : Report) : List Json :=
  let all := r.findings.map Finding.toJson
  if r.redacted then all.map redactFinding else all

/-- The report as a JSON document. -/
def toJson (r : Report) : Json :=
  .obj [
    ("tool", .str toolName),
    ("version", .str r.version),
    ("scannedPath", .str r.scannedPath),
    ("summary", r.summary.toJson),
    ("findings", .arr r.findingsJson)]

end Report

end SecretScan
