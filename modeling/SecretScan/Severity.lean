/-!
# Severity

How bad a leaked credential is. Settings know three levels; a rule of one's own may name another,
which ranks with the lowest. Main statement: the three levels are ordered by their ranks.
-/

namespace SecretScan

/-- The level of a rule or a finding. -/
inductive Severity where
  | low
  | med
  | high
  | other (name : String)
  deriving DecidableEq, Repr, Inhabited

namespace Severity

/-- The level of this name. -/
def ofName (name : String) : Severity :=
  if name = "low" then .low
  else if name = "med" then .med
  else if name = "high" then .high
  else .other name

/-- The name of a level. -/
def name : Severity → String
  | .low => "low"
  | .med => "med"
  | .high => "high"
  | .other name => name

/-- The rank that thresholds compare. -/
def rank : Severity → Nat
  | .low => 1
  | .med => 2
  | .high => 3
  | .other _ => 1

/-- Is the level at least as high as the threshold? -/
def meets (s threshold : Severity) : Bool :=
  threshold.rank ≤ s.rank

/-- The levels that settings accept. -/
def known : List Severity :=
  [.low, .med, .high]

/-- The least entropy of a credential, for rules that ask for some, when a scan at this threshold
sets none. -/
def entropyFloor : Severity → Float
  | .high => 0.0
  | .med => 3.5
  | .low => 2.5
  | .other _ => 2.5

theorem name_ofName (n : String) : (ofName n).name = n := by
  unfold ofName
  split
  · exact Eq.symm ‹_›
  · split
    · exact Eq.symm ‹_›
    · split
      · exact Eq.symm ‹_›
      · rfl

theorem meets_trans {a b c : Severity} (h : a.meets b = true) (h' : b.meets c = true) :
    a.meets c = true := by
  simp only [meets, decide_eq_true_eq] at *
  omega

end Severity

end SecretScan
