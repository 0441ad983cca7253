import SecretScan.Proofs.Scan.Stopping

/-!
# Collecting from several files at once

The files of a scan share one collector: each adds its findings to it and is counted by it, in any
order. This module says what a new collector holds after any sequence of such calls, and how the
calls are answered.

## Key results

- `call_answer`: findings that are added are answered with yes exactly if they are the first to
  reach the limit
- `count_answers`: a collector stops with the one call that is answered with yes
- `after_calls`: findings, counts, stop and answers after any sequence of calls
-/

namespace SecretScan

namespace Collector

/-- A call of a collector: findings are added, or a file is counted. -/
inductive Call where
  | add (found : List Finding)
  | fileDone

/-- The findings that a call adds. -/
def Call.found : Call → List Finding
  | .add found => found
  | .fileDone => []

/-- Does a call count a file? -/
def Call.isFileDone : Call → Bool
  | .add _ => false
  | .fileDone => true

/-- The answer to a call before which there are so many findings: for findings that are added,
whether they are the first to reach the limit. -/
def Call.answer (limit : Option Int) (count : Nat) : Call → Option Bool
  | .add found =>
    some (decide (¬ ReachesLimit limit count ∧ ReachesLimit limit (count + found.length)))
  | .fileDone => none

/-- Carries out a call, and answers it. -/
def call (c : Collector) : Call → Collector × Option Bool
  | .add found => ((c.add found).1, some (c.add found).2)
  | .fileDone => (c.fileDone, none)

/-- The collector after some calls, the first one first. -/
def after (c : Collector) (calls : List Call) : Collector :=
  calls.foldl (fun c call => (c.call call).1) c

/-- The answers to some calls, in their order. -/
def answers (c : Collector) : List Call → List (Option Bool)
  | [] => []
  | call :: calls => (c.call call).2 :: (c.call call).1.answers calls

theorem after_cons (c : Collector) (call : Call) (calls : List Call) :
    c.after (call :: calls) = (c.call call).1.after calls :=
  rfl

/-- Calls in a row are calls after one another. -/
private theorem after_append (c : Collector) (calls more : List Call) :
    c.after (calls ++ more) = (c.after calls).after more :=
  List.foldl_append

/-! ## One call -/

/-- No call changes the limit. -/
private theorem call_limit (c : Collector) (call : Call) : (c.call call).1.limit = c.limit := by
  cases call with
  | add found => exact add_limit c found
  | fileDone => rfl

/-- A call keeps what was found. -/
private theorem call_findings (c : Collector) (call : Call) :
    (c.call call).1.findings = c.findings ++ call.found := by
  cases call with
  | add found => exact add_findings c found
  | fileDone => exact (List.append_nil _).symm

/-- A call counts the file that is done, if one is. -/
private theorem call_filesScanned (c : Collector) (call : Call) :
    (c.call call).1.filesScanned = c.filesScanned + if call.isFileDone then 1 else 0 := by
  cases call <;> rfl

/-- A call keeps the collector consistent. -/
private theorem consistent_call {c : Collector} (h : c.Consistent) (call : Call) :
    (c.call call).1.Consistent := by
  cases call with
  | add found => exact consistent_add h found
  | fileDone => exact consistent_fileDone h

/-- Findings that are added are answered with yes exactly if they are the first to reach the
limit. -/
theorem call_answer {c : Collector} (h : c.Consistent) (call : Call) :
    (c.call call).2 = call.answer c.limit c.findings.length := by
  cases call with
  | fileDone => rfl
  | add found =>
    -- the answer is yes where the flag goes up, and it goes up where the limit is reached
    have hyes : (c.add found).2 = true ↔
        ¬ ReachesLimit c.limit c.findings.length ∧
          ReachesLimit c.limit (c.findings.length + found.length) := by
      rw [← h.stopped_iff, ← h.reaches_iff, ← List.length_append]
      simp [add]
    exact congrArg some (Bool.eq_iff_iff.2 (hyes.trans decide_eq_true_iff.symm))

/-- A call stops the collector exactly if it is answered with yes, and none starts it again. -/
private theorem call_stopped (c : Collector) (call : Call) :
    (if (c.call call).2 = some true then 1 else 0) + c.stopped.toNat =
      (c.call call).1.stopped.toNat := by
  cases call with
  | fileDone => simp [Collector.call, fileDone]
  | add found =>
    simp only [Collector.call, add_stopped, Option.some.injEq]
    -- yes is not answered once the collector has stopped
    have hyes : (c.add found).2 = true → c.stopped = false := by
      simp only [add, Bool.and_eq_true, Bool.not_eq_true']
      exact And.left
    cases hreached : (c.add found).2 with
    | false => simp
    | true => simp [hyes hreached]

/-! ## Any sequence of calls -/

/-- The limit stays what it is. -/
private theorem after_limit (c : Collector) (calls : List Call) :
    (c.after calls).limit = c.limit := by
  induction calls generalizing c with
  | nil => rfl
  | cons call calls ih => rw [after_cons, ih, call_limit]

/-- The findings are all that the calls brought, in order. -/
private theorem after_findings (c : Collector) (calls : List Call) :
    (c.after calls).findings = c.findings ++ calls.flatMap Call.found := by
  induction calls generalizing c with
  | nil => exact (List.append_nil _).symm
  | cons call calls ih =>
    rw [after_cons, ih, call_findings, List.flatMap_cons, List.append_assoc]

/-- The files counted are the calls that one was done. -/
private theorem after_filesScanned (c : Collector) (calls : List Call) :
    (c.after calls).filesScanned = c.filesScanned + calls.countP Call.isFileDone := by
  induction calls generalizing c with
  | nil => rfl
  | cons call calls ih =>
    rw [after_cons, ih, call_filesScanned, List.countP_cons]
    omega

/-- Calls keep the collector consistent. -/
private theorem consistent_after {c : Collector} (h : c.Consistent) (calls : List Call) :
    (c.after calls).Consistent := by
  induction calls generalizing c with
  | nil => exact h
  | cons call calls ih => exact ih (consistent_call h call)

/-- A collector stops with the one call that is answered with yes, and stays stopped. -/
theorem count_answers (c : Collector) (calls : List Call) :
    (c.answers calls).count (some true) + c.stopped.toNat = (c.after calls).stopped.toNat := by
  induction calls generalizing c with
  | nil => exact Nat.zero_add _
  | cons call calls ih =>
    rw [after_cons, ← ih, ← call_stopped, answers, List.count_cons, ← Nat.add_assoc]
    simp only [beq_iff_eq]

/-- A collector that has stopped stays so. -/
private theorem after_stopped {c : Collector} (h : c.stopped = true) (calls : List Call) :
    (c.after calls).stopped = true := by
  have hcount := count_answers c calls
  rw [h] at hcount
  cases hafter : (c.after calls).stopped with
  | true => rfl
  | false => simp [hafter] at hcount

/-- Each call is answered by the collector that those before it have left. -/
private theorem answers_append_cons (c : Collector) (before : List Call) (call : Call)
    (later : List Call) :
    (c.answers (before ++ call :: later))[before.length]? =
      some ((c.after before).call call).2 := by
  induction before generalizing c with
  | nil => rfl
  | cons first before ih => exact ih (c.call first).1

/-- After any sequence of calls a new collector with a limit above zero, or none, holds all
findings that were added, in their order, and has counted them and the files. It is stopped exactly
if the findings reach the limit, and stays so. If they do, one call was answered with yes, the one
whose findings were the first to reach it; otherwise none was. -/
theorem after_calls {limit : Option Int} (hlimit : ∀ n, limit = some n → 0 < n)
    (calls : List Call) :
    let start := empty limit
    let found := calls.flatMap Call.found
    (start.after calls).findings = found ∧
      (start.after calls).findingCount = found.length ∧
      (start.after calls).filesScanned = calls.countP Call.isFileDone ∧
      ((start.after calls).stopped = true ↔ ReachesLimit limit found.length) ∧
      (∀ more, (start.after calls).stopped = true → (start.after (calls ++ more)).stopped = true) ∧
      (start.answers calls).count (some true) = (if ReachesLimit limit found.length then 1 else 0) ∧
      ∀ before call later, calls = before ++ call :: later →
        (start.answers calls)[before.length]? =
          some (call.answer limit (before.flatMap Call.found).length) := by
  intro start found
  -- the collector stays consistent, so whether it has stopped is told by its findings
  have hconsistent : ∀ calls, (start.after calls).Consistent :=
    consistent_after (consistent_empty hlimit)
  have hlimits : ∀ calls, (start.after calls).limit = limit := after_limit start
  have hfindings : ∀ calls, (start.after calls).findings = calls.flatMap Call.found :=
    after_findings start
  have hstopped : (start.after calls).stopped = true ↔ ReachesLimit limit found.length := by
    rw [(hconsistent calls).stopped_iff, hlimits, hfindings]
  refine ⟨hfindings calls, ?_, ?_, hstopped, fun more h => ?_, ?_, ?_⟩
  · rw [(start.after calls).findingCount_eq, hfindings]
  · rw [after_filesScanned]
    exact Nat.zero_add _
  · rw [after_append]
    exact after_stopped h more
  · -- the answers say yes exactly once, namely at the call that stops it
    have hcount : (start.answers calls).count (some true) = (start.after calls).stopped.toNat :=
      count_answers start calls
    simp only [hcount, ← hstopped]
    cases (start.after calls).stopped <;> rfl
  · rintro before call later rfl
    rw [answers_append_cons, call_answer (hconsistent before), hlimits, hfindings]

/-- A finding on a line of its own. -/
def keyOnLine (line : Int) : Finding where
  severity := .high
  type := "aws_access_key"
  file := "a.py"
  line
  column := 1
  matchPreview := "****MNOP"
  hash := ""
  context := "****MNOP"
  ruleId := "AWS_ACCESS_KEY_ID"
  confidence := 97

/-- What three files do with a collector. The last one still adds findings after the second one has
reached a limit of two. -/
def threeFiles : List Call := [
  .add [keyOnLine 1], .add [], .fileDone,
  .add [keyOnLine 2, keyOnLine 3], .fileDone,
  .add [keyOnLine 4, keyOnLine 5], .fileDone]

/-- Three files with a finding each, and a limit of two. -/
theorem after_calls_threeFiles :
    (∀ n : Int, some 2 = some n → 0 < n) ∧
      let start := empty (some 2)
      (start.after threeFiles).findings = [1, 2, 3, 4, 5].map keyOnLine ∧
      (start.after threeFiles).findingCount = 5 ∧
      (start.after threeFiles).filesScanned = 3 ∧
      (start.after threeFiles).stopped = true ∧
      (start.after (threeFiles ++ [.fileDone])).stopped = true ∧
      (start.answers threeFiles).count (some true) = 1 ∧
      (start.answers threeFiles)[3]? = some (some true) ∧
      (start.answers threeFiles)[5]? = some (some false) := by
  have hlimit : ∀ n : Int, some 2 = some n → 0 < n := by
    rintro n ⟨⟩
    decide
  obtain ⟨hfindings, hcount, hfiles, hstopped, hstays, honce, hanswers⟩ :=
    after_calls hlimit threeFiles
  have hreached : ReachesLimit (some 2) (threeFiles.flatMap Call.found).length := by decide
  refine ⟨hlimit, hfindings, hcount, hfiles, hstopped.2 hreached, hstays _ (hstopped.2 hreached),
    honce.trans (if_pos hreached), ?_, ?_⟩
  -- the second file reaches the limit, and the third one does not reach it again
  · exact hanswers (threeFiles.take 3) _ _ rfl
  · exact hanswers (threeFiles.take 5) _ _ rfl

end Collector

end SecretScan
