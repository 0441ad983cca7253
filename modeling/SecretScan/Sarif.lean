import SecretScan.Catalog
import SecretScan.Json.Value
import SecretScan.Report

/-!
# SARIF documents

A JSON report in the format that code hosts take in. The rules are listed in the order in which
findings first name them (`Sarif.rules`), and each result points to its rule by position. Reports
come from anywhere, so their members need not be of the type they should be.
-/

namespace SecretScan.Sarif

open SecretScan (Json)

/-- Why a report cannot be converted. -/
inductive Error where
  /-- Something that should be an object is none. -/
  | notObject
  /-- The findings are no list. -/
  | notList
  /-- The id of a rule is a list or an object. -/
  | compoundId
  /-- A line or a column is a list or an object. -/
  | compoundNumber
  /-- A line or a column is a text that is no numeral, or not a number. -/
  | notNumeral
  /-- A line or a column is infinite. -/
  | infinite
  deriving DecidableEq, Repr

/-- The run of a job that a document belongs to. -/
structure Job where
  run : String := "local"
  job : String := "job"
  attempt : String := "1"
  deriving DecidableEq, Repr

/-- The id that sets the documents of one job apart from others. -/
def Job.id (j : Job) : String :=
  "leaksniff-" ++ j.run ++ "-" ++ j.job ++ "-" ++ j.attempt

/-- A rule that findings of a report name. -/
structure NamedRule where
  id : Json
  kind : Json
  severity : Json

/-- The level of a severity. -/
def level (severity : Json) : String :=
  match severity with
  | .str "high" => "error"
  | _ => "warning"

/-- The id of the rule of a finding. -/
def ruleId (finding : Json) : Json :=
  finding.getD "ruleId" (.str "UNKNOWN")

/-- The severity of a finding. -/
def severityOf (finding : Json) : Json :=
  finding.getD "severity" (.str "low")

/-- The family of credentials that the catalog has a rule for. -/
def catalogKind (id : Json) : Json :=
  match id with
  | .str name => ((Catalog.find? name).map fun r => Json.str r.type).getD id
  | _ => id

/-- What kind of credential the rule of a finding stands for. -/
def kindOf (finding : Json) : Json :=
  match finding.get? "type" with
  | some type => if type.isBlank then catalogKind (ruleId finding) else type
  | none => catalogKind (ruleId finding)

/-- Are two ids one? -/
def sameId (a b : Json) : Bool :=
  a.toValue.same b.toValue

/-- Where a rule stands in a list. -/
def position? (rules : List NamedRule) (id : Json) : Option Nat :=
  rules.findIdx? fun r => sameId r.id id

/-- Adds the rule of a finding, unless it is there. -/
def addRule (rules : List NamedRule) (finding : Json) : List NamedRule :=
  let id := ruleId finding
  match position? rules id with
  | some _ => rules
  | none => rules ++ [⟨id, kindOf finding, severityOf finding⟩]

/-- Can the finding be listed? It must be an object, and the id of its rule a key. -/
def checkFinding (finding : Json) : Except Error Unit :=
  match finding with
  | .obj _ => if (ruleId finding).toValue.isKey then .ok () else .error .compoundId
  | _ => .error .notObject

/-- The rules that findings name, in the order of first appearance. -/
def rules (findings : List Json) : List NamedRule :=
  findings.foldl addRule []

/-- A rule in the document. -/
def NamedRule.toJson (r : NamedRule) : Json :=
  .obj [
    ("id", r.id),
    ("name", r.kind),
    ("shortDescription", .obj [("text", .str ("Hardcoded " ++ r.kind.shown))]),
    ("defaultConfiguration", .obj [("level", .str (level r.severity))])]

/-- A whole number read from a line or a column. -/
def wholeNumber (j : Json) : Except Error Int :=
  match j with
  | .int n => .ok n
  | .bool b => .ok (if b then 1 else 0)
  | .float x =>
    match Decimal.BinaryFraction.ofFloat? x with
    | some f => .ok f.truncated
    | none => .error (if x.isNaN then .notNumeral else .infinite)
  | .str s =>
    match Decimal.readWhole? s.toList with
    | some n => .ok n
    | none => .error .notNumeral
  | _ => .error .compoundNumber

/-- A line or a column; at least one, also where there is none. -/
def coordinate (finding : Json) (key : String) : Except Error Int :=
  let given := finding.getD key .null
  if given.isBlank then .ok 1
  else do return max 1 (← wholeNumber given)

/-- The message of a result. -/
def messageOf (finding : Json) : String :=
  (finding.getD "type" (ruleId finding)).shown ++ " detected: " ++
    (finding.getD "matchPreview" (.str "")).shown

/-- A finding in the document. -/
def result (rules : List NamedRule) (finding : Json) : Except Error Json := do
  let line ← coordinate finding "line"
  let column ← coordinate finding "column"
  let region := Json.obj [("startLine", .int line), ("startColumn", .int column)]
  let place := Json.obj [
    ("artifactLocation", .obj [("uri", finding.getD "file" (.str ""))]),
    ("region", region)]
  return .obj [
    ("ruleId", ruleId finding),
    ("ruleIndex", .int ((position? rules (ruleId finding)).getD 0)),
    ("level", .str (level (severityOf finding))),
    ("message", .obj [("text", .str (messageOf finding))]),
    ("locations", .arr [.obj [("physicalLocation", place)]]),
    ("partialFingerprints", .obj [("secretHash", finding.getD "hash" (.str ""))]),
    ("properties", .obj [
      ("severity", finding.getD "severity" .null),
      ("confidence", finding.getD "confidence" .null)])]

/-- The findings of a report. Absent and empty ones are none at all. -/
def findingsOf (report : Json) : Except Error (List Json) :=
  match report with
  | .obj _ =>
    match report.getD "findings" (.arr []) with
    | .arr items => .ok items
    | j =>
      if j.isBlank then .ok []
      else
        match j with
        | .str _ | .obj _ => .error .notObject
        | _ => .error .notList
  | _ => .error .notObject

/-- The document for a report. -/
def ofReport (job : Job) (report : Json) : Except Error Json := do
  let findings ← findingsOf report
  findings.forM checkFinding
  let rules := rules findings
  let results ← findings.mapM (result rules)
  let driver := Json.obj [
    ("name", report.getD "tool" (.str Report.toolName)),
    ("version", report.getD "version" (.str "")),
    ("rules", .arr (rules.map NamedRule.toJson))]
  return .obj [
    ("version", .str "2.1.0"),
    ("$schema", .str "https://json.schemastore.org/sarif-2.1.0.json"),
    ("runs", .arr [.obj [
      ("automationDetails", .obj [("id", .str job.id)]),
      ("tool", .obj [("driver", driver)]),
      ("results", .arr results)]])]

end SecretScan.Sarif
