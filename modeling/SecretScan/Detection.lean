import SecretScan.Catalog
import SecretScan.Confidence
import SecretScan.Entropy
import SecretScan.Finding
import SecretScan.Masking
import SecretScan.Text.Lines

/-!
# Detection

Every rule is applied to every line of a text. An `Occurrence` is a credential that a rule found,
with the place where it stands and in clear; only occurrences that pass are turned into findings,
which hold it masked.

Findings come in the order of lines, then of rules, then of columns. Rules do not see each other,
so one text may be reported under several of them.
-/

namespace SecretScan

/-- A credential that a rule found on a line. -/
structure Occurrence where
  rule : Rule
  /-- The number of the line, from one. -/
  lineNumber : Nat
  line : List Char
  secret : List Char
  /-- How far into the line the credential is reported to start. -/
  offset : Nat

/-- What a scan of a text is asked to do. -/
structure DetectionOptions where
  /-- The path that findings carry and confidence looks at. -/
  path : String
  /-- The least entropy of a credential, for rules that ask for some. -/
  entropyThreshold : Float
  /-- Patterns that suppress a finding when they match its credential or its line. -/
  suppressions : List Pattern := []
  rules : List Rule := Catalog.rules

/-- The credentials that a rule finds on a line, from left to right. -/
def Rule.occurrences (r : Rule) (lineNumber : Nat) (line : List Char) : List Occurrence :=
  let s := line.toArray
  (r.pattern.findAll s).filterMap fun m =>
    let (secret, distance) := r.secretOf s m
    -- a group that did not take part, or matched nothing, makes no credential
    if secret.isEmpty then none
    else some ⟨r, lineNumber, line, secret, m.span.start + distance⟩

namespace Occurrence

/-- Does a pattern match the credential or its line? -/
def isSuppressed (o : Occurrence) (suppressions : List Pattern) : Bool :=
  suppressions.any fun p => p.occursIn o.secret.toArray || p.occursIn o.line.toArray

/-- Does the rule ask for more entropy than the credential has? -/
def lacksEntropy (o : Occurrence) (threshold : Float) : Bool :=
  o.rule.requiresEntropy && entropy o.secret < threshold

/-- Is the occurrence reported? -/
def passes (o : Occurrence) (options : DetectionOptions) : Bool :=
  !o.isSuppressed options.suppressions && !o.lacksEntropy options.entropyThreshold

/-- Is this a signed token on a line that speaks of a privileged key? -/
def isElevated (o : Occurrence) : Bool :=
  o.rule.isJwt && mentions Catalog.elevationMarkers (Text.lowered o.line)

/-- The severity of the finding. -/
def severity (o : Occurrence) : Severity :=
  if o.isElevated then .high else o.rule.severity

/-- The points that the rule adds to the confidence. -/
def boost (o : Occurrence) : Int :=
  if o.isElevated then o.rule.boost + Catalog.elevationBoost else o.rule.boost

/-- The points for the entropy of the credential. -/
def bonus (o : Occurrence) : Int :=
  match entropyBonus? (entropy o.secret) with
  | .ok points => points
  | .error _ => 0

/-- The masked, judged form of the occurrence. -/
def toFinding (o : Occurrence) (path : String) : Finding :=
  let preview := mask o.secret
  { severity := o.severity
    type := o.rule.type
    file := path
    line := o.lineNumber
    column := o.offset + 1
    matchPreview := String.ofList preview
    hash := secretDigest o.secret
    context := String.ofList (maskInContext o.line o.secret preview)
    ruleId := o.rule.id
    confidence := confidence o.severity o.bonus o.line path.toList o.boost }

end Occurrence

/-- All occurrences on the lines of a text, before any is dropped. -/
def occurrences (text : List Char) (rules : List Rule) : List Occurrence :=
  ((Text.lines text).zipIdx 1).flatMap fun (line, number) =>
    rules.flatMap fun r => r.occurrences number line

/-- The findings of a text. -/
def detect (text : List Char) (options : DetectionOptions) : List Finding :=
  ((occurrences text options.rules).filter (·.passes options)).map (·.toFinding options.path)

/-- Is there a rule that matches some line but asks for a group its pattern does not have? Such
rules cannot be applied. -/
def asksForMissingGroup (text : List Char) (rules : List Rule) : Bool :=
  rules.any fun r => r.lacksGroup && (Text.lines text).any fun l => r.pattern.occursIn l.toArray

end SecretScan
