import SecretScan.Proofs.CommandLine.Agreement

/-!
# What redaction hides

Two scans may agree in all that their findings say but for what is shown of the lines: the previews
of the credentials, and the contexts. Their redacted reports are the same, and with them the SARIF
documents and all that a run prints and writes of both. A SARIF document takes the previews over but
never the contexts, so it does not depend on those even where nothing is redacted.

## Key results

- `Sarif.result_congr`, `Sarif.rules_congr`: a document is made from the findings without their
  contexts
- `Report.toJson_of_redacted`: a redacted report does not depend on what is hidden
- `exports_of_redacted`: nothing that is exported of a redacted report does
-/

namespace SecretScan

/-- Do two findings differ in nothing but their previews and their contexts? -/
def Finding.SameButShown (f g : Finding) : Prop :=
  ∃ matchPreview context, g = { f with matchPreview, context }

/-- Do two findings differ in nothing but their contexts? -/
def Finding.SameButContext (f g : Finding) : Prop :=
  ∃ context, g = { f with context }

/-- Findings that differ in what is shown only are redacted to the same. -/
private theorem Finding.SameButShown.redacted_eq {f g : Finding} (h : f.SameButShown g) :
    g.redacted = f.redacted := by
  obtain ⟨_, _, rfl⟩ := h
  rfl

/-- A redacted report does not depend on what is hidden. -/
theorem Report.toJson_of_redacted (r : Report) {findings findings' : List Finding}
    (h : List.Forall₂ Finding.SameButShown findings findings') :
    toJson { r with findings := findings', redacted := true } =
      toJson { r with findings, redacted := true } := by
  -- redacting removes all that the findings differ in
  have hredacted : findings'.map Finding.redacted = findings.map Finding.redacted := by
    induction h with
    | nil => rfl
    | cons hf _ ih => rw [List.map_cons, List.map_cons, hf.redacted_eq, ih]
  have hitems : findingsJson { r with findings := findings', redacted := true } =
      findingsJson { r with findings, redacted := true } := by
    simp only [findingsJson_eq_map, if_true, hredacted]
  unfold toJson
  rw [hitems]

namespace Sarif

/-- Do two documents have the same members, their contexts aside? -/
def AgreeButContext (a b : Json) : Prop :=
  ∀ key, key ≠ "context" → b.get? key = a.get? key

/-- Findings that differ in their context only are so in the report. -/
private theorem agreeButContext_toJson {f g : Finding} (h : f.SameButContext g) :
    AgreeButContext f.toJson g.toJson := by
  obtain ⟨context, rfl⟩ := h
  intro key hkey
  have hcontext : (key == "context") = false := beq_false_of_ne hkey
  simp only [Finding.toJson, Json.get?, List.lookup_cons, hcontext]

/-- All members but the context are the same, given or not. -/
theorem AgreeButContext.getD_eq {a b : Json} (h : AgreeButContext a b) (key : String)
    (default : Json) (hkey : key ≠ "context") : b.getD key default = a.getD key default := by
  rw [Json.getD, Json.getD, h key hkey]

/-- The ids of the rules are the same. -/
theorem AgreeButContext.ruleId_eq {a b : Json} (h : AgreeButContext a b) : ruleId b = ruleId a :=
  h.getD_eq _ _ (by decide)

/-- The severities are the same. -/
theorem AgreeButContext.severityOf_eq {a b : Json} (h : AgreeButContext a b) :
    severityOf b = severityOf a :=
  h.getD_eq _ _ (by decide)

/-- Lines and columns are the same, or fail in the same way. -/
theorem AgreeButContext.coordinate_eq {a b : Json} (h : AgreeButContext a b) (key : String)
    (hkey : key ≠ "context") : coordinate b key = coordinate a key := by
  unfold coordinate
  rw [h.getD_eq key _ hkey]

/-- A finding is converted without a look at its context. -/
theorem result_congr (rules : List NamedRule) {a b : Json} (h : AgreeButContext a b) :
    result rules b = result rules a := by
  -- preview and context are read nowhere, so that each part of the result is the same
  have hmessage : messageOf b = messageOf a := by
    unfold messageOf
    rw [h.ruleId_eq, h.getD_eq _ _ (by decide), h.getD_eq _ _ (by decide)]
  have hline := h.coordinate_eq "line" (by decide)
  have hcolumn := h.coordinate_eq "column" (by decide)
  have hfile := h.getD_eq "file" (.str "") (by decide)
  have hhash := h.getD_eq "hash" (.str "") (by decide)
  have hseverity := h.getD_eq "severity" .null (by decide)
  have hconfidence := h.getD_eq "confidence" .null (by decide)
  unfold result
  rw [hline, hcolumn, hfile, hhash, hseverity, hconfidence, hmessage, h.ruleId_eq, h.severityOf_eq]

/-- The context of a finding makes no difference to the table of rules. -/
private theorem addRule_congr (rules : List NamedRule) {a b : Json} (h : AgreeButContext a b) :
    addRule rules b = addRule rules a := by
  have hkind : kindOf b = kindOf a := by
    unfold kindOf
    rw [h "type" (by decide), h.ruleId_eq]
  unfold addRule
  rw [h.ruleId_eq, hkind, h.severityOf_eq]

/-- The rules are listed without a look at contexts. -/
theorem rules_congr {findings findings' : List Json}
    (h : List.Forall₂ AgreeButContext findings findings') : rules findings' = rules findings := by
  -- for every list of rules to start from, as each finding adds to those before it
  suffices ∀ start, findings'.foldl addRule start = findings.foldl addRule start from this []
  induction h with
  | nil => exact fun _ => rfl
  | cons hf _ ih =>
    intro start
    rw [List.foldl_cons, List.foldl_cons, addRule_congr start hf, ih]

/-- A document does not depend on the contexts of findings. -/
private theorem ofReport_toJson_congr (job : Job) (r : Report) {findings findings' : List Finding}
    (h : List.Forall₂ Finding.SameButContext findings findings') :
    ofReport job (Report.toJson { r with findings := findings', redacted := false }) =
      ofReport job (Report.toJson { r with findings, redacted := false }) := by
  -- the members that are read of findings agree one by one
  have hmembers : List.Forall₂ AgreeButContext (findings.map Finding.toJson)
      (findings'.map Finding.toJson) := by
    rw [List.forall₂_map_left_iff, List.forall₂_map_right_iff]
    exact h.imp fun _ _ => agreeButContext_toJson
  have hcheck : ∀ l : List Finding, (l.map Finding.toJson).forM checkFinding = .ok () := by
    intro l
    rw [forM_eq_ok_iff, List.forall_mem_map]
    exact fun f _ => checkFinding_toJson f
  have hresults : (findings'.map Finding.toJson).mapM (result (rules (findings.map Finding.toJson)))
      = (findings.map Finding.toJson).mapM (result (rules (findings.map Finding.toJson))) :=
    mapM_congr (hmembers.imp fun _ _ => result_congr _)
  unfold ofReport
  -- what is taken from the report besides its findings is the same
  rw [findingsOf_toJson, findingsOf_toJson, ok_bind, ok_bind]
  simp only [Report.findingsJson, Bool.false_eq_true, if_false, hcheck, ok_bind,
    rules_congr hmembers, hresults]
  rfl

end Sarif

/-! ## What is exported -/

namespace CommandLine

/-- A redacted report of a scan, and its SARIF document, depend on nothing that is hidden. -/
private theorem Export.report_of_redacted (s : Surroundings) (root : Path) {c : ScanCommand}
    {p p' : Scan.Progress} (hredact : c.redact = true)
    (hfiles : p'.collector.filesScanned = p.collector.filesScanned)
    (h : List.Forall₂ Finding.SameButShown p.findings p'.findings) :
    (ofProgress s c root p').report = (ofProgress s c root p).report ∧
      (ofProgress s c root p').sarif = (ofProgress s c root p).sarif := by
  -- redacted reports are the same, and the other document is made of the report alone
  have hreport : (ofProgress s c root p').report = (ofProgress s c root p).report := by
    rw [report_ofProgress, report_ofProgress]
    unfold reportOf
    rw [hfiles, ← h.length_eq, hredact]
    exact Report.toJson_of_redacted (reportOf s c root p) h
  exact ⟨hreport, congrArg (Sarif.ofReport s.job) hreport⟩

/-- Files are written from the report and the SARIF document alone. -/
private theorem Export.write_congr (c : ScanCommand) {e e' : Export}
    (hreport : e'.report = e.report)
    (hsarif : e'.sarif = e.sarif) (cwd : Path) (t : FileTree) :
    e'.write cwd c t = e.write cwd c t := by
  unfold write sarifDocument
  rw [hreport, hsarif]

/-- So is all that is printed, unless it is the table. -/
private theorem Export.printed_congr {e e' : Export} (hreport : e'.report = e.report)
    (hsarif : e'.sarif = e.sarif) {format : OutputFormat} (hformat : format ≠ .text)
    (width : Nat) : e'.printed format width = e.printed format width := by
  unfold printed sarifDocument
  cases format with
  | text => exact absurd rfl hformat
  | json => rw [hreport]
  | sarif => rw [hsarif]

/-- The status tells whether there are findings. -/
private theorem Export.status_congr {e e' : Export} (h : e'.findings.length = e.findings.length) :
    e'.status = e.status := by
  have hempty : e'.findings.isEmpty = e.findings.isEmpty := by
    rw [Bool.eq_iff_iff, List.isEmpty_iff_length_eq_zero, List.isEmpty_iff_length_eq_zero, h]
  unfold status
  rw [hempty]

end CommandLine

/-- Where findings agree in all but their previews and contexts, the redacted reports on them are
the same, and so are the SARIF documents of those; where they agree in all but their contexts, so
are the SARIF documents of reports that are not redacted. A run that redacts writes the same files
for both and, unless it prints the table, comes out the same. -/
theorem exports_of_redacted (job : Sarif.Job) (r : Report) (findings findings' : List Finding) :
    (List.Forall₂ Finding.SameButShown findings findings' →
      let redacted l := Report.toJson { r with findings := l, redacted := true }
      redacted findings' = redacted findings ∧
        ∃ document, Sarif.ofReport job (redacted findings) = .ok document ∧
          Sarif.ofReport job (redacted findings') = .ok document) ∧
    (List.Forall₂ Finding.SameButContext findings findings' →
      let plain l := Report.toJson { r with findings := l, redacted := false }
      ∃ document, Sarif.ofReport job (plain findings) = .ok document ∧
        Sarif.ofReport job (plain findings') = .ok document) ∧
    ∀ (s : CommandLine.Surroundings) (c : CommandLine.ScanCommand) (root : Path)
      (p p' : Scan.Progress), c.redact = true → p.findings = findings → p'.findings = findings' →
      p'.collector.filesScanned = p.collector.filesScanned →
      List.Forall₂ Finding.SameButShown findings findings' →
      let exported p := CommandLine.Export.ofProgress s c root p
      (∀ t, (exported p').write s.cwd c t = (exported p).write s.cwd c t) ∧
        (c.format ≠ .text → ∀ notices,
          (exported p').run s c notices = (exported p).run s c notices) := by
  -- redacted reports are equal, and the others lead to equal documents
  refine ⟨fun h => ?_, fun h => ?_, ?_⟩
  · have hreport := r.toJson_of_redacted h
    obtain ⟨document, _, hdocument, _⟩ :=
      Sarif.exists_ofReport_toJson job { r with findings, redacted := true }
    exact ⟨hreport, document, hdocument, (congrArg (Sarif.ofReport job) hreport).trans hdocument⟩
  · obtain ⟨document, _, hdocument, _⟩ :=
      Sarif.exists_ofReport_toJson job { r with findings, redacted := false }
    exact ⟨document, hdocument, (Sarif.ofReport_toJson_congr job r h).trans hdocument⟩
  · rintro s c root p p' hredact rfl rfl hfiles h
    obtain ⟨hreport, hsarif⟩ :=
      CommandLine.Export.report_of_redacted s root hredact hfiles h
    -- what is written is the report and its document
    have hwrite := CommandLine.Export.write_congr c hreport hsarif s.cwd
    refine ⟨hwrite, fun hformat notices => ?_⟩
    have hprinted := CommandLine.Export.printed_congr hreport hsarif hformat s.tableWidth
    have hstatus : (CommandLine.Export.ofProgress s c root p').status =
        (CommandLine.Export.ofProgress s c root p).status :=
      CommandLine.Export.status_congr h.length_eq.symm
    -- the run depends on what is written and printed, and on whether something was found
    unfold CommandLine.Export.run
    simp only [hwrite, hprinted, hstatus]

/-- A finding of a key. -/
def firstKey : Finding where
  severity := .high
  type := "aws_access_key"
  file := "a.py"
  line := 1
  column := 3
  matchPreview := "****MNOP"
  hash := "sha256:00"
  context := "a=****MNOP"
  ruleId := "AWS_ACCESS_KEY_ID"
  confidence := 97

/-- A finding of another key on another line. -/
def secondKey : Finding :=
  { firstKey with matchPreview := "****4567", context := "b=****4567 # example" }

/-- A finding of the first key on another line. -/
def thirdKey : Finding :=
  { firstKey with context := "c=****MNOP" }

/-- A scan that has come to its end with one finding. -/
def scanWith (f : Finding) : Scan.Progress where
  collector := { limit := none, findings := [f], filesScanned := 1 }

/-- A scan of which a redacted report is printed. -/
def redactCommand : CommandLine.ScanCommand where
  format := .json
  redact := true

/-- Keys with different previews and contexts, redacted and not. -/
theorem exports_of_redacted_keys :
    firstKey.SameButShown secondKey ∧ firstKey.SameButContext thirdKey ∧
      (∃ document,
        Sarif.ofReport {} (Report.toJson ⟨"1", "/s", {}, [firstKey], true⟩) = .ok document ∧
        Sarif.ofReport {} (Report.toJson ⟨"1", "/s", {}, [secondKey], true⟩) = .ok document) ∧
      (∃ document,
        Sarif.ofReport {} (Report.toJson ⟨"1", "/s", {}, [firstKey], false⟩) = .ok document ∧
        Sarif.ofReport {} (Report.toJson ⟨"1", "/s", {}, [thirdKey], false⟩) = .ok document) ∧
      (CommandLine.Export.ofProgress CommandLine.keyDirectory redactCommand []
          (scanWith secondKey)).run CommandLine.keyDirectory redactCommand [] =
        (CommandLine.Export.ofProgress CommandLine.keyDirectory redactCommand []
          (scanWith firstKey)).run CommandLine.keyDirectory redactCommand [] := by
  have hshown : firstKey.SameButShown secondKey := ⟨_, _, rfl⟩
  have hcontext : firstKey.SameButContext thirdKey := ⟨_, rfl⟩
  -- both parts are used, each with two keys that differ as it admits
  obtain ⟨hredacted, -, hexported⟩ :=
    exports_of_redacted {} ⟨"1", "/s", {}, [], true⟩ [firstKey] [secondKey]
  obtain ⟨-, hplain, -⟩ := exports_of_redacted {} ⟨"1", "/s", {}, [], true⟩ [firstKey] [thirdKey]
  have hrun := (hexported CommandLine.keyDirectory redactCommand [] (scanWith firstKey)
    (scanWith secondKey) rfl rfl rfl rfl (.cons hshown .nil)).2 (by decide) []
  exact ⟨hshown, hcontext, (hredacted (.cons hshown .nil)).2, hplain (.cons hcontext .nil), hrun⟩

end SecretScan
