import SecretScan.Decimal.Binary
import SecretScan.Severity
import SecretScan.Text.LetterCase
import SecretScan.Text.Occurrence

/-!
# Confidence

A score from 0 to 100: a base by severity, a bonus for entropy, a bonus and a penalty for words
on the line, a penalty for the path of a test, and what the rule adds.
-/

namespace SecretScan

open SecretScan.Text

/-- Where a score starts. -/
def Severity.baseConfidence : Severity → Int
  | .high => 90
  | .med => 70
  | .low => 40
  | .other _ => 40

/-- Words that make a credential more likely. -/
def contextKeywords : List String :=
  ["secret", "token", "api key", "apikey", "bearer", "authorization", "private", "credential"]

/-- Words that make a credential less likely. -/
def negativeKeywords : List String :=
  ["example", "dummy", "testkey", "test key", "fixture", "mock"]

/-- Parts of paths that belong to tests. -/
def testPathMarkers : List String :=
  ["test", "fixture", "mock"]

/-- Does one of the words occur in the text? -/
def mentions (keywords : List String) (text : List Char) : Bool :=
  keywords.any fun k => occursIn k.toList text

/-- Why an entropy has no bonus. -/
inductive EntropyError where
  | infinite
  | notANumber
  deriving DecidableEq, Repr

/-- The bonus for an entropy: a point per half bit, at most ten. -/
def entropyBonus? (entropy : Float) : Except EntropyError Int :=
  let doubled := entropy * 2
  match Decimal.BinaryFraction.ofFloat? doubled with
  | some x => .ok (min 10 x.floor)
  | none => .error (if doubled.isNaN then .notANumber else .infinite)

/-- The points for the words on a line. Both kinds can apply. -/
def contextScore (line : List Char) : Int :=
  let lower := lowered line
  (if mentions contextKeywords lower then 10 else 0) +
    (if mentions negativeKeywords lower then -20 else 0)

/-- The penalty for the path of a test. -/
def pathPenalty (path : List Char) : Int :=
  if mentions testPathMarkers (lowered path) then -20 else 0

/-- The sum of all parts, kept between 0 and 100. -/
def confidence (severity : Severity) (bonus : Int) (line path : List Char) (boost : Int) : Int :=
  max 0 (min 100 (severity.baseConfidence + bonus + contextScore line + pathPenalty path + boost))

end SecretScan
