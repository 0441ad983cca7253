import SecretScan.Pattern.Matching
import SecretScan.Severity
import SecretScan.Text.Occurrence

/-!
# Rules

A rule describes one family of credentials: a pattern, where in a match the credential stands, and
how an occurrence is judged.
-/

namespace SecretScan

/-- How one family of credentials is recognised and judged. -/
structure Rule where
  id : String
  type : String
  severity : Severity
  pattern : Pattern
  /-- The group that holds the credential; the whole match if there is none. -/
  secretGroup : Option Nat := none
  /-- Is an occurrence with too little entropy dropped? -/
  requiresEntropy : Bool := false
  /-- Is this a signed token, to be raised on lines that speak of privileged keys? -/
  isJwt : Bool := false
  /-- Points added to the confidence. -/
  boost : Int := 0
  deriving Repr

namespace Rule

/-- The credential of a match and its distance from the start of the match. Of a group that took
no part, or matched nothing, the whole match stands in. -/
def secretOf (r : Rule) (s : Pattern.Subject) (m : Pattern.Match) : List Char × Nat :=
  let whole := m.span.text s
  match r.secretGroup.bind m.group? with
  | none => (whole, 0)
  | some span =>
    let secret := span.text s
    if secret.isEmpty then (whole, 0) else (secret, (Text.find? secret whole).getD 0)

/-- Does the rule ask for a group that its pattern does not have? -/
def lacksGroup (r : Rule) : Bool :=
  r.secretGroup.any (r.pattern.groupCount < ·)

end Rule

end SecretScan
