import Mathlib
import SecretScan.Proofs.Except
import SecretScan.Sarif

/-!
# Results of SARIF documents

The document for a report has one result for each finding of the report, in the same order. The
report of a scan can always be converted: its findings have all that a result is made from, also
where they are redacted.

## Key results

- `ofReport_eq_ok`: what a document holds for the findings of a report
- `exists_ofReport_toJson`: the report of any findings has a document
-/

namespace SecretScan

/-- A finding with its preview and its context hidden. -/
def Finding.redacted (f : Finding) : Finding :=
  { f with matchPreview := redactedText, context := redactedText }

/-- Hiding the preview and the context in the report hides them in the finding. -/
private theorem redactFinding_toJson (f : Finding) :
    redactFinding f.toJson = f.redacted.toJson := by
  simp [redactFinding, Finding.toJson, Json.put, Json.putMember, Finding.redacted]

/-- The findings of a report are written one by one. -/
theorem Report.findingsJson_eq_map (r : Report) :
    r.findingsJson =
      (r.findings.map fun f => if r.redacted then f.redacted else f).map Finding.toJson := by
  unfold Report.findingsJson
  cases r.redacted <;> simp [redactFinding_toJson]

namespace Sarif

/-- The results of a document, if they are where they should be. -/
def resultsOf? (document : Json) : Option (List Json) := do
  match ← document.get? "runs" with
  | .arr [run] =>
    match ← run.get? "results" with
    | .arr results => some results
    | _ => none
  | _ => none

/-- The document of a report of which every finding can be listed and converted. -/
theorem ofReport_eq_ok {job : Job} {report : Json} {findings : List Json}
    (hfindings : findingsOf report = .ok findings)
    (hcheck : ∀ f ∈ findings, checkFinding f = .ok ())
    (hresult : ∀ f ∈ findings, ∃ r, result (rules findings) f = .ok r) :
    ∃ document results, ofReport job report = .ok document ∧
      resultsOf? document = some results ∧
      List.Forall₂ (fun f r => result (rules findings) f = .ok r) findings results := by
  obtain ⟨results, hresults⟩ := exists_mapM_eq_ok hresult
  unfold ofReport
  -- the report is read, checked, and gone through once more for the results
  rw [hfindings, ok_bind, forM_eq_ok_iff.2 hcheck, ok_bind]
  simp only [hresults, ok_bind]
  exact ⟨_, results, rfl, rfl, mapM_eq_ok_iff.1 hresults⟩

/-- A finding of a report can be listed. -/
theorem checkFinding_toJson (f : Finding) : checkFinding f.toJson = .ok () := by
  have hid : ruleId f.toJson = .str f.ruleId := by
    simp [ruleId, Finding.toJson, Json.getD, Json.get?, List.lookup]
  have hobject : checkFinding f.toJson =
      if (ruleId f.toJson).toValue.isKey then .ok () else .error .compoundId := rfl
  rw [hobject, hid]
  rfl

/-- A line or a column that is at least one stays as it is. -/
theorem exists_coordinate_eq {finding : Json} {key : String}
    (h : ∀ v ∈ finding.get? key, ∃ n, v = .int n) :
    ∃ n, coordinate finding key = .ok n ∧ 1 ≤ n ∧
      ∀ m, finding.get? key = some (.int m) → 1 ≤ m → n = m := by
  unfold coordinate Json.getD
  cases hgiven : finding.get? key with
  | none => exact ⟨1, rfl, le_refl 1, fun m hm => nomatch hm⟩
  | some v =>
    obtain ⟨n, rfl⟩ := h v hgiven
    -- zero counts as absent, and both stand for the first line
    by_cases hzero : n = 0
    · subst hzero
      refine ⟨1, rfl, le_refl 1, fun m hm hpos => ?_⟩
      obtain rfl := Json.int.inj (Option.some.inj hm)
      omega
    · have hblank : Json.isBlank (.int n) = false := by
        simpa [Json.isBlank, Json.toValue, Value.isBlank] using hzero
      refine ⟨max 1 n, ?_, le_max_left 1 n, fun m hm hpos => ?_⟩
      · simp only [Option.getD_some, hblank, Bool.false_eq_true, if_false]
        rfl
      · obtain rfl := Json.int.inj (Option.some.inj hm)
        exact max_eq_right hpos

/-- A finding can be converted whatever rules there are. -/
private theorem exists_result_toJson (rules : List NamedRule) (f : Finding) :
    ∃ r, result rules f.toJson = .ok r := by
  -- line and column of a finding are whole numbers, so that nothing fails
  have hline : ∀ v ∈ f.toJson.get? "line", ∃ n, v = .int n := by
    simp [Finding.toJson, Json.get?, List.lookup]
  have hcolumn : ∀ v ∈ f.toJson.get? "column", ∃ n, v = .int n := by
    simp [Finding.toJson, Json.get?, List.lookup]
  obtain ⟨line, hline, -⟩ := exists_coordinate_eq hline
  obtain ⟨column, hcolumn, -⟩ := exists_coordinate_eq hcolumn
  unfold result
  rw [hline, ok_bind, hcolumn, ok_bind]
  exact ⟨_, rfl⟩

/-- The findings of a report are found in it. -/
theorem findingsOf_toJson (r : Report) : findingsOf r.toJson = .ok r.findingsJson := by
  have hfindings : r.toJson.getD "findings" (.arr []) = .arr r.findingsJson := by
    simp [Report.toJson, Json.getD, Json.get?, List.lookup]
  unfold findingsOf
  rw [hfindings]
  rfl

/-- The report of any findings has a document, with one result for each of them. -/
theorem exists_ofReport_toJson (job : Job) (r : Report) :
    ∃ document results, ofReport job r.toJson = .ok document ∧
      resultsOf? document = some results ∧
      List.Forall₂ (fun f r' => result (rules r.findingsJson) f = .ok r') r.findingsJson
        results := by
  -- a finding can be listed, and has a result
  refine ofReport_eq_ok (findingsOf_toJson r) ?_ ?_
  · rw [r.findingsJson_eq_map]
    intro j hj
    obtain ⟨f, _, rfl⟩ := List.mem_map.1 hj
    exact checkFinding_toJson f
  · intro j hj
    rw [r.findingsJson_eq_map] at hj
    obtain ⟨f, _, rfl⟩ := List.mem_map.1 hj
    exact exists_result_toJson _ f

end Sarif

end SecretScan
