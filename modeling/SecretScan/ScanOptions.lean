import SecretScan.Candidate
import SecretScan.Settings
import SecretScan.Severity

/-!
# Scan options

What a scan is asked to do. A `ScanRequest` holds raw values, as a settings file or a command line
gives them; `ScanOptions.ofRequest` checks them one after the other, and the first that is wrong is
reported.
-/

namespace SecretScan

/-- Raw values for the options of a scan; an absent value leaves an option at its default. -/
structure ScanRequest where
  severity : Value := .null
  entropy : Value := .null
  maxFindings : Value := .null
  maxFileSize : Value := .null
  ignoreFile : Value := .null
  /-- The patterns that suppress findings. The characters of a text are patterns each. -/
  patterns : Value := .null
  progress : Value := .bool false

/-- What a scan is asked to do. -/
structure ScanOptions where
  root : Path
  maxFileSize : Int := defaultMaxFileSize
  /-- After how many findings the scan stops. Zero is no limit. -/
  maxFindings : Option Int := none
  severity : Severity := .med
  entropyThreshold : Float
  ignoreFile : Option String := none
  suppressions : List Pattern := []
  /-- Is progress to be shown? Any value is kept as it is. -/
  progress : Value := .bool false

namespace ScanOptions

/-- The name of the ignore list that is used if no other is named. -/
def defaultIgnoreName : String :=
  ".secret-scan-ignore"

/-- Is a value given? An empty text is none. -/
def isGiven : Value → Bool
  | .null => false
  | .text s => !s.isEmpty
  | _ => true

/-- Reads a severity. -/
def severityOf (v : Value) : Except SettingsError Severity :=
  match v with
  | .null => .ok .med
  | .text (.wellFormed s) =>
    let severity := Severity.ofName s
    if Severity.known.contains severity then .ok severity
    else .error (.refused (.invalidSeverity v))
  | _ => .error (if v.isShowable then .refused (.invalidSeverity v) else .unshowable)

/-- Reads a number. -/
def numberOf (refusal : Refusal) (v : Value) : Except SettingsError Float :=
  match v.number with
  | .ok x => if x.isNaN then .error (.refused refusal) else .ok x
  | .error .notNumeral => .error (.refused refusal)
  | .error .tooLarge => .error .numberTooLarge

/-- Reads a whole number above zero. -/
def positiveOf (refusal : Refusal) (v : Value) : Except SettingsError Int := do
  let x ← numberOf refusal v
  match Decimal.BinaryFraction.ofFloat? x with
  | some f =>
    if 0 < f.truncated && f.isWhole then return f.truncated else throw (.refused refusal)
  | none => throw (.refused refusal)

/-- Reads an option that may be left out. Whether it is takes showing its value. -/
def optional {α : Type} (default : α) (v : Value) (read : Value → Except SettingsError α) :
    Except SettingsError α :=
  if !v.isShowable then .error .unshowable
  else if isGiven v then read v
  else .ok default

/-- The ignore list of a scan: the one that is named, or the default one if it exists. -/
def ignoreFileOf (h : Host) (directory : Path) (v : Value) :
    Except SettingsError (Option String) :=
  if v.isBlank then
    let default := directory ++ [defaultIgnoreName]
    (fun found => if found then some default.text else none) <$>
      (h.exists? default).mapError .inaccessible
  else
    match v with
    | .text name =>
      if Path.isAbsolute name.shown then .ok (some (Path.plain name.shown))
      else (fun path => some path.text) <$> (h.resolve directory name).mapError .unresolvable
    | _ => .error .notText

/-- The items of a value that can be gone through. -/
def itemsOf (v : Value) : Except SettingsError (List Value) :=
  match v.inside with
  | .text s => .ok (s.codePoints.map fun p => .text (.ofCodePoints [p]))
  | .list items | .set items => .ok items
  | .mapping entries => .ok (entries.map (·.1))
  | .pair first second => .ok [first, second]
  | v => if v.isBlank then .ok [] else .error .notText

/-- Reads a pattern. -/
def patternOf (h : Host) : Value → Except SettingsError Pattern
  | .text source =>
    match h.patternOf source with
    | .ok p => .ok p
    | .error (.malformed reason pos) =>
      .error (.refused (.invalidPattern source (.malformed reason pos)))
    | .error e => .error (.unusablePattern e)
  | _ => .error .notText

/-- Reads the patterns that suppress findings. -/
def patternsOf (h : Host) (v : Value) : Except SettingsError (List Pattern) := do
  (← itemsOf v).mapM (patternOf h)

/-- Checks a request for a scan that starts at a path, and fills in the defaults. -/
def ofRequest (h : Host) (cwd : Path) (root : String) (r : ScanRequest) :
    Except SettingsError ScanOptions := do
  let root ← (h.resolve cwd root).mapError .unresolvable
  if !(← (h.exists? root).mapError .inaccessible) then throw (.refused (.pathNotFound root.text))
  let severity ← severityOf r.severity
  let entropyThreshold ←
    optional severity.entropyFloor r.entropy (numberOf .invalidEntropy)
  let maxFindings ←
    optional none r.maxFindings fun v => some <$> positiveOf .invalidMaxFindings v
  let maxFileSize ←
    optional (Int.ofNat defaultMaxFileSize) r.maxFileSize (positiveOf .invalidMaxFileSize)
  let directory ← (h.directoryOf root).mapError .inaccessible
  let ignoreFile ← ignoreFileOf h directory r.ignoreFile
  let suppressions ← patternsOf h r.patterns
  return {
    root, maxFileSize, maxFindings, severity, entropyThreshold, ignoreFile, suppressions
    progress := r.progress }

end ScanOptions

end SecretScan
