import SecretScan.Json
import SecretScan.Severity

/-!
# Findings

What a scan reports: one occurrence of a credential, judged and masked. A finding does not hold the
credential itself; its digest tells whether two findings are about the same one.
-/

namespace SecretScan

/-- A reported occurrence of a credential. -/
structure Finding where
  severity : Severity
  /-- The family of the credential. -/
  type : String
  /-- The path of the file. -/
  file : String
  /-- The line, counted from one. -/
  line : Int
  /-- The column of the credential in its line, counted from one. -/
  column : Int
  /-- The credential, masked but for its end. -/
  matchPreview : String
  hash : String
  /-- The line, with the credential masked. -/
  context : String
  ruleId : String
  confidence : Int
  deriving DecidableEq, Repr

namespace Finding

/-- The same finding under another path. -/
def withFile (f : Finding) (file : String) : Finding :=
  { f with file }

/-- The finding as reports write it. -/
def toJson (f : Finding) : Json :=
  .obj [
    ("severity", .str f.severity.name),
    ("type", .str f.type),
    ("file", .str f.file),
    ("line", .int f.line),
    ("column", .int f.column),
    ("matchPreview", .str f.matchPreview),
    ("hash", .str f.hash),
    ("context", .str f.context),
    ("ruleId", .str f.ruleId),
    ("confidence", .int f.confidence)]

end Finding

/-- What stands for a field that is hidden altogether. -/
def redactedText : String :=
  "REDACTED"

/-- A finding in a report with its preview and its context hidden. -/
def redactFinding (finding : Json) : Json :=
  (finding.put "matchPreview" (.str redactedText)).put "context" (.str redactedText)

end SecretScan
