import SecretScan.Finding

/-!
# Collecting findings

A `Collector` takes in the findings of a scan and counts its files. It is stopped when it holds as
many findings as were asked for; what is added after that is kept all the same, and is cut off at
the end (`Collector.kept`).
-/

namespace SecretScan

/-- The findings of a scan so far. -/
structure Collector where
  /-- After how many findings to stop; zero and no number at all are no limit. -/
  limit : Option Int
  findings : List Finding := []
  /-- How many findings there are. -/
  findingCount : Nat := findings.length
  filesScanned : Nat := 0
  stopped : Bool := false
  findingCount_eq : findingCount = findings.length := by rfl

namespace Collector

/-- A collector that has taken in nothing yet. -/
def empty (limit : Option Int) : Collector where
  limit

/-- The limit, if there is one. -/
def limit? (c : Collector) : Option Int :=
  c.limit.filter (· != 0)

/-- Would this many findings reach the limit? -/
def reaches (c : Collector) (count : Nat) : Bool :=
  c.limit?.any (· ≤ Int.ofNat count)

/-- Takes in findings; tells whether they were the ones to reach the limit. -/
def add (c : Collector) (found : List Finding) : Collector × Bool :=
  let findings := c.findings ++ found
  -- only the findings that get there first reach the limit
  let reached := !c.stopped && c.reaches findings.length
  ({ c with
      findings
      findingCount := findings.length
      findingCount_eq := rfl
      stopped := c.stopped || reached }, reached)

/-- Counts a file. -/
def fileDone (c : Collector) : Collector :=
  { c with filesScanned := c.filesScanned + 1 }

/-- The first elements of a list; a negative count leaves out as many at the end. -/
def firstOnes {α : Type} (count : Int) (l : List α) : List α :=
  if 0 ≤ count then l.take count.toNat else l.take (l.length - count.natAbs)

/-- The findings that are reported. -/
def kept (c : Collector) : List Finding :=
  match c.limit? with
  | none => c.findings
  | some limit => firstOnes limit c.findings

@[simp] theorem empty_findings (limit : Option Int) : (empty limit).findings = [] :=
  rfl

@[simp] theorem empty_stopped (limit : Option Int) : (empty limit).stopped = false :=
  rfl

theorem add_findings (c : Collector) (found : List Finding) :
    (c.add found).1.findings = c.findings ++ found :=
  rfl

theorem add_limit (c : Collector) (found : List Finding) :
    (c.add found).1.limit = c.limit :=
  rfl

/-- A collector stops with the findings that reach the limit, and does not start again. -/
theorem add_stopped (c : Collector) (found : List Finding) :
    (c.add found).1.stopped = (c.stopped || (c.add found).2) :=
  rfl

end Collector

end SecretScan
