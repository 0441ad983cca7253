import Mathlib
import SecretScan.CommandLine.Program
import SecretScan.Proofs.FileTree.Writing
import SecretScan.Proofs.Sarif.Results
import SecretScan.Proofs.Scan.Findings

/-!
# What a run leaves behind

A run that cannot be done leaves its surroundings as they were. A scan that was done leaves its
findings in several forms, and they agree: the status, the report and its summary, the SARIF
document, what is printed and what is written to files.

## Key results

- `runScan_cases`: a scan is refused before anything is printed or written, or was done
- `Export.write_eq_ok`: what the files hold that were asked for
- `run_agrees`: the status of a run against what it prints and writes
-/

namespace SecretScan.CommandLine

/-- The status that a run ends with, unless it is broken off. -/
def Ending.status? : Ending → Option Status
  | .returned s | .dismissed s => some s
  | .brokenOff _ => none

/-- What is in a file that a document was written to. -/
def fileOf (document : Json) : ByteArray :=
  ⟨(Text.Utf8.encode document.pretty).toArray⟩

/-- Are the report and the SARIF document, if both are written, in different files? -/
def SeparateFiles (cwd : Path) (c : ScanCommand) (t : FileTree) : Prop :=
  ∀ report sarif, Settings.given? c.out = some report → Settings.given? c.sarifOut = some sarif →
    t.realPath (Path.under cwd report) ≠ t.realPath (Path.under cwd sarif)

/-! ## Files -/

/-- Where no file is named, none is written. -/
private theorem writeDocument_of_not_given {cwd : Path} {named : Option String} {document : Json}
    {t : FileTree} (h : Settings.given? named = none) :
    writeDocument cwd named document t = .ok t := by
  unfold writeDocument
  rw [h]

/-- Where a file is named, its bytes are those of the document. -/
theorem writeDocument_eq_ok_iff {cwd : Path} {named : Option String} {document : Json}
    {t t' : FileTree} {name : String} (hname : Settings.given? named = some name) :
    writeDocument cwd named document t = .ok t' ↔
      t.write (Path.under cwd name) (fileOf document) = .ok t' := by
  unfold writeDocument fileOf
  rw [hname]
  simp only
  cases t.write (Path.under cwd name) ⟨(Text.Utf8.encode document.pretty).toArray⟩ <;> simp

namespace Export

/-- The SARIF document of an export is there if the report could be converted. -/
private theorem sarifDocument_eq_ok {e : Export} {sarif : Json} (h : e.sarif = .ok sarif) :
    e.sarifDocument = .ok sarif := by
  rw [sarifDocument, h]
  rfl

/-- The report is written before the SARIF document. -/
private theorem write_eq_ok_iff {e : Export} {cwd : Path} {c : ScanCommand} {t t' : FileTree}
    {sarif : Json} (hsarif : e.sarif = .ok sarif) :
    e.write cwd c t = (t', .ok ()) ↔
      ∃ t₁, writeDocument cwd c.out e.report t = .ok t₁ ∧
        writeDocument cwd c.sarifOut sarif t₁ = .ok t' := by
  unfold write
  -- the SARIF file is written only if the report could be
  cases writeDocument cwd c.out e.report t with
  | error f => simp
  | ok t₁ =>
    simp only [Except.ok.injEq, exists_eq_left']
    cases hgiven : Settings.given? c.sarifOut with
    | none => simp [writeDocument_of_not_given hgiven]
    | some name =>
      simp only [Option.isNone_some, Bool.false_eq_true, if_false, sarifDocument_eq_ok hsarif]
      cases writeDocument cwd c.sarifOut sarif t₁ <;> simp

/-- What the files hold that were asked for. -/
theorem read_of_write {e : Export} {cwd : Path} {c : ScanCommand} {t t' : FileTree} {sarif : Json}
    (hsarif : e.sarif = .ok sarif) (h : e.write cwd c t = (t', .ok ()))
    (hseparate : SeparateFiles cwd c t') :
    (∀ name, Settings.given? c.out = some name →
      t'.read (Path.under cwd name) = .ok (fileOf e.report)) ∧
    ∀ name, Settings.given? c.sarifOut = some name →
      t'.read (Path.under cwd name) = .ok (fileOf sarif) := by
  obtain ⟨t₁, hout, hsarifOut⟩ := (write_eq_ok_iff hsarif).1 h
  constructor
  · intro name hname
    -- the report stays as it was written, since the other file is another one
    have hwrite := (writeDocument_eq_ok_iff hname).1 hout
    cases hgiven : Settings.given? c.sarifOut with
    | none =>
      rw [writeDocument_of_not_given hgiven] at hsarifOut
      obtain rfl := Except.ok.inj hsarifOut
      exact FileTree.read_of_write hwrite
    | some other =>
      have hwrite' := (writeDocument_eq_ok_iff hgiven).1 hsarifOut
      exact (FileTree.read_of_write_write hwrite hwrite' (hseparate name other hname hgiven)).1
  · intro name hname
    exact FileTree.read_of_write ((writeDocument_eq_ok_iff hname).1 hsarifOut)

/-- An export that comes to an end has written and printed all that was asked for. -/
theorem run_eq_of_status {e : Export} {s : Surroundings} {c : ScanCommand} {notices : List Notice}
    {status : Status} (h : (e.run s c notices).ending.status? = some status) :
    status = e.status ∧
      e.write s.cwd c s.disk.tree = ((e.run s c notices).tree, .ok ()) ∧
      e.printed c.format s.tableWidth = .ok (e.run s c notices).output := by
  unfold run at h ⊢
  -- only a run that has written and printed everything returns a status of its own
  cases hwrite : e.write s.cwd c s.disk.tree with
  | mk tree written =>
    cases written with
    | error f => simp [hwrite, Ending.status?] at h
    | ok u =>
      simp only [hwrite] at h ⊢
      cases hprinted : e.printed c.format s.tableWidth with
      | error f => simp [hprinted, Ending.status?] at h
      | ok output =>
        simp only [hprinted, Ending.status?, Option.some.injEq] at h
        exact ⟨h.symm, rfl, rfl⟩

/-- A scan that was done is not refused. -/
private theorem status_ne_error (e : Export) : e.status ≠ .error := by
  unfold status
  split
  · exact nofun
  · exact nofun

/-- The status says that something was found if something was. -/
private theorem status_eq_findings_iff (e : Export) : e.status = .findings ↔ e.findings ≠ [] := by
  unfold status
  cases e.findings with
  | nil => simp
  | cons f rest => simp

end Export

/-! ## Runs -/

/-- The scan that was done for a command: of what root, and what came of it, in whatever way files
are scanned. -/
structure ScanDone (s : Surroundings) (c : ScanCommand) (root : Path) (p : Scan.Progress) :
    Prop where
  root_eq : s.disk.tree.host.resolve s.cwd c.root = .ok root
  root_exists : s.disk.tree.host.exists? root = .ok true
  scan_eq : ∃ file settings options,
    Settings.load s.disk.tree s.cwd c.config root.text = .ok (file, settings) ∧
    ScanOptions.ofRequest s.disk.tree s.cwd root.text (c.request settings) = .ok options ∧
    s.scan s.disk s.cwd options = .ok p

/-- A run that is refused: nothing is printed or written, and it does not end as if a scan had been
done. -/
def IsRefused (s : Surroundings) (o : Outcome) : Prop :=
  o.output = "" ∧ o.tree = s.disk.tree ∧ ∀ status, o.ending.status? = some status → status = .error

/-- A run whose settings are refused has printed and written nothing. -/
private theorem isRefused_refusedSettings (s : Surroundings) (notices : List Notice)
    (e : SettingsError) :
    IsRefused s (refusedSettings s notices e) := by
  cases e with
  | refused r => exact ⟨rfl, rfl, fun status h => (Option.some.inj h).symm⟩
  | _ => exact ⟨rfl, rfl, fun status h => nomatch h⟩

/-- A scan is refused before anything is printed or written, or it was done and is exported. -/
theorem runScan_cases (s : Surroundings) (c : ScanCommand) :
    IsRefused s (runScan s c) ∨
      ∃ root p notices, ScanDone s c root p ∧
        runScan s c = (Export.ofProgress s c root p).run s c notices := by
  unfold runScan
  dsimp only
  -- every step that fails ends the run before anything is written or printed
  cases hroot : s.disk.tree.host.resolve s.cwd c.root with
  | error e => exact .inl ⟨rfl, rfl, fun status h => nomatch h⟩
  | ok root =>
    dsimp only
    cases hexists : s.disk.tree.host.exists? root with
    | error e => exact .inl ⟨rfl, rfl, fun status h => nomatch h⟩
    | ok found =>
      cases found with
      | false => exact .inl ⟨rfl, rfl, fun status h => (Option.some.inj h).symm⟩
      | true =>
        dsimp only
        unfold scanBelow
        cases hload : Settings.load s.disk.tree s.cwd c.config root.text with
        | error e => exact .inl (isRefused_refusedSettings s _ e)
        | ok loaded =>
          obtain ⟨file, settings⟩ := loaded
          dsimp only
          cases hoptions :
              ScanOptions.ofRequest s.disk.tree s.cwd root.text (c.request settings) with
          | error e => exact .inl (isRefused_refusedSettings s _ e)
          | ok options =>
            dsimp only
            cases hscan : s.scan s.disk s.cwd options with
            | error fault => exact .inl ⟨rfl, rfl, fun status h => (Option.some.inj h).symm⟩
            | ok p =>
              exact .inr ⟨root, p, _,
                ⟨hroot, hexists, file, settings, options, hload, hoptions, hscan⟩, rfl⟩

/-- A scan that was done is exported. -/
private theorem exists_runScan_of_scanDone {s : Surroundings} {c : ScanCommand} {root : Path}
    {p : Scan.Progress} (h : ScanDone s c root p) :
    ∃ notices, runScan s c = (Export.ofProgress s c root p).run s c notices := by
  obtain ⟨hroot, hexists, file, settings, options, hload, hoptions, hscan⟩ := h
  unfold runScan scanBelow
  simp only [hroot, hexists, hload, hoptions, hscan]
  exact ⟨_, rfl⟩

/-- A run that ends with the status of an error has printed nothing and written nothing. -/
private theorem isRefused_of_error {s : Surroundings} {r : Request}
    (h : (runRequest s r).ending.status? = some .error) : IsRefused s (runRequest s r) := by
  cases r with
  | showHelp g => exact nomatch h
  | misuse g m => exact ⟨rfl, rfl, fun status h => (Option.some.inj h).symm⟩
  | run command =>
    cases command with
    | help => exact nomatch h
    | version => exact nomatch h
    | scan c =>
      -- a scan that was done never has the status of an error
      obtain hrefused | ⟨root, p, notices, _, hrun⟩ := runScan_cases s c
      · exact hrefused
      · have hscan : runRequest s (.run (.scan c)) =
            (Export.ofProgress s c root p).run s c notices := hrun
        rw [hscan] at h
        exact absurd (Export.run_eq_of_status h).1.symm (Export.status_ne_error _)

/-- What a scan that was done leaves behind, with its report and its SARIF document: the document
belongs to the report, and both are where they were asked for. -/
structure Agrees (s : Surroundings) (c : ScanCommand) (o : Outcome) (p : Scan.Progress)
    (report sarif : Json) : Prop where
  /-- The summary counts the findings that the report lists. -/
  summary_eq : ∃ items, report.get? "findings" = some (.arr items) ∧
    items.length = p.findings.length ∧
    (report.get? "summary").bind (·.get? "findings") = some (.int items.length)
  sarif_eq : Sarif.ofReport s.job report = .ok sarif
  /-- Each finding of the report has its result, in the same order. -/
  results_eq : ∃ items results, report.get? "findings" = some (.arr items) ∧
    Sarif.resultsOf? sarif = some results ∧
    List.Forall₂ (fun f r => Sarif.result (Sarif.rules items) f = .ok r) items results
  report_file : ∀ name, Settings.given? c.out = some name →
    o.tree.read (Path.under s.cwd name) = .ok (fileOf report)
  sarif_file : ∀ name, Settings.given? c.sarifOut = some name →
    o.tree.read (Path.under s.cwd name) = .ok (fileOf sarif)
  output_json : c.format = .json → o.output = report.pretty ++ "\n"
  output_sarif : c.format = .sarif → o.output = sarif.pretty ++ "\n"
  output_text : c.format = .text → Report.table s.tableWidth p.findings = .ok o.output

/-- The report of a scan. -/
def reportOf (s : Surroundings) (c : ScanCommand) (root : Path) (p : Scan.Progress) : Report where
  version := Report.toolVersion
  scannedPath := root.text
  summary := ⟨p.collector.filesScanned, p.findings.length, s.duration⟩
  findings := p.findings
  redacted := c.redact

/-- The report of an export is that of the findings kept. -/
theorem Export.report_ofProgress (s : Surroundings) (c : ScanCommand) (root : Path)
    (p : Scan.Progress) :
    (Export.ofProgress s c root p).report = (reportOf s c root p).toJson :=
  rfl

/-- The report of a scan always has a SARIF document. -/
private theorem Export.exists_sarif_ofProgress (s : Surroundings) (c : ScanCommand) (root : Path)
    (p : Scan.Progress) : ∃ sarif, (Export.ofProgress s c root p).sarif = .ok sarif := by
  obtain ⟨sarif, _, hsarif, _⟩ := Sarif.exists_ofReport_toJson s.job (reportOf s c root p)
  exact ⟨sarif, hsarif⟩

/-- An export that comes to an end leaves behind what agrees. -/
private theorem agrees_of_run {s : Surroundings} {c : ScanCommand} {root : Path} {p : Scan.Progress}
    {notices : List Notice} {status : Status}
    (h : ((Export.ofProgress s c root p).run s c notices).ending.status? = some status)
    (hseparate : SeparateFiles s.cwd c ((Export.ofProgress s c root p).run s c notices).tree) :
    ∃ sarif, Agrees s c ((Export.ofProgress s c root p).run s c notices) p
      (Export.ofProgress s c root p).report sarif := by
  -- whatever the scan found, its report can be converted
  let report := reportOf s c root p
  have hreport := Export.report_ofProgress s c root p
  have hitems : report.toJson.get? "findings" = some (.arr report.findingsJson) := by
    simp [Report.toJson, Json.get?, List.lookup]
  have hlength : report.findingsJson.length = p.findings.length := by
    rw [report.findingsJson_eq_map]
    simp [report, reportOf]
  obtain ⟨sarif, results, hsarif, hresultsOf, hresults⟩ := Sarif.exists_ofReport_toJson s.job report
  have hdocument : (Export.ofProgress s c root p).sarif = .ok sarif := hsarif
  obtain ⟨_, hwrite, hprinted⟩ := Export.run_eq_of_status h
  obtain ⟨hout, hsarifOut⟩ := Export.read_of_write hdocument hwrite hseparate
  refine ⟨sarif, ?_⟩
  -- the two files are on the disk, and what is printed is decided by the format
  constructor
  case summary_eq =>
    refine ⟨report.findingsJson, hitems, hlength, ?_⟩
    rw [hreport, hlength]
    simp [reportOf, Report.toJson, ScanSummary.toJson, Json.get?, List.lookup]
  case sarif_eq => exact hsarif
  case results_eq => exact ⟨report.findingsJson, results, hitems, hresultsOf, hresults⟩
  case report_file => exact hout
  case sarif_file => exact hsarifOut
  case output_json =>
    intro hformat
    rw [hformat] at hprinted
    exact (Except.ok.inj hprinted).symm
  case output_sarif =>
    intro hformat
    rw [hformat, Export.printed, Export.sarifDocument_eq_ok hdocument] at hprinted
    exact (Except.ok.inj hprinted).symm
  case output_text =>
    intro hformat
    rw [hformat, Export.printed] at hprinted
    cases htable : Report.table s.tableWidth p.findings with
    | ok output =>
      have hsame : Report.table s.tableWidth (Export.ofProgress s c root p).findings =
        .ok output := htable
      rw [hsame] at hprinted
      rw [Except.ok.inj hprinted]
    | error e =>
      have hsame : Report.table s.tableWidth (Export.ofProgress s c root p).findings =
        .error e := htable
      rw [hsame] at hprinted
      cases hprinted

/-- The status of a run against what it prints and writes. The status of an error says that nothing
was printed and that no file has changed. Any other status of a scan says that the scan was done
and whether something was found, and then all that the scan leaves behind agrees. -/
theorem run_agrees (s : Surroundings) (arguments : List String) {status : Status}
    (hstatus : (run s arguments).ending.status? = some status) :
    (status.code = 2 → (run s arguments).output = "" ∧ (run s arguments).tree = s.disk.tree) ∧
    ∀ c, Request.ofArguments arguments = .run (.scan c) → status.code ≠ 2 →
      SeparateFiles s.cwd c (run s arguments).tree →
      ∃ root p sarif, ScanDone s c root p ∧ (status.code = 1 ↔ p.findings ≠ []) ∧
        (status.code = 0 ↔ p.findings = []) ∧
        Agrees s c (run s arguments) p (Export.ofProgress s c root p).report sarif := by
  constructor
  · intro hcode
    -- two is the status of errors only
    have herror : status = .error := by
      cases status with
      | error => rfl
      | _ => exact nomatch hcode
    rw [herror] at hstatus
    obtain ⟨houtput, htree, _⟩ := isRefused_of_error hstatus
    exact ⟨houtput, htree⟩
  · intro c hrequest hcode hseparate
    -- the arguments ask for a scan, so the run is that scan
    have hrun : run s arguments = runScan s c := by
      unfold run
      rw [hrequest]
      rfl
    rw [hrun] at hstatus hseparate ⊢
    obtain ⟨_, _, hrefused⟩ | ⟨root, p, notices, hdone, hexport⟩ := runScan_cases s c
    · rw [hrefused status hstatus] at hcode
      exact absurd rfl hcode
    · rw [hexport] at hstatus hseparate ⊢
      obtain ⟨hstatus', _, _⟩ := Export.run_eq_of_status hstatus
      obtain ⟨sarif, hagrees⟩ := agrees_of_run hstatus hseparate
      -- the status is decided by what is found
      have hfindings := Export.status_eq_findings_iff (Export.ofProgress s c root p)
      rw [← hstatus'] at hfindings
      refine ⟨root, p, sarif, hdone, ?_, ?_, hagrees⟩
      · rw [← show _ ↔ p.findings ≠ [] from hfindings]
        cases status <;> simp [Status.code]
      · rw [← not_iff_not, ← show _ ↔ ¬ p.findings = [] from hfindings]
        cases status with
        | error => exact absurd rfl hcode
        | _ => simp [Status.code]

/-- A directory with a file, in which there is a key. -/
def keyDirectory : Surroundings where
  disk := { tree := { entries := [("a.py", .file key)] } }
  cwd := []
where
  /-- The bytes of the key. -/
  key : ByteArray :=
    ⟨#[65, 75, 73, 65, 65, 66, 67, 68, 69, 70, 71, 72, 73, 74, 75, 76, 77, 78, 79, 80]⟩

/-- A scan of the current directory of which both documents are wanted. -/
def exportCommand : ScanCommand where
  format := .json
  out := some "r.json"
  sarifOut := some "r.sarif"

/-- The arguments that ask for it. -/
def exportArguments : List String :=
  ["scan", "--json", "--out", "r.json", "--sarif-out", "r.sarif"]

/-- The command that is asked for, if one is. -/
def Request.command? : Request → Option Command
  | .run c => some c
  | _ => none

/-- What the arguments of the example ask for. -/
private theorem ofArguments_exportArguments :
    Request.ofArguments exportArguments = .run (.scan exportCommand) := by
  -- the command is told apart from misuse by evaluation, and read off
  have hcommand : (Request.ofArguments exportArguments).command? = some (.scan exportCommand) := by
    decide +kernel
  cases hrequest : Request.ofArguments exportArguments with
  | run c =>
    rw [hrequest] at hcommand
    rw [Option.some.inj hcommand]
  | _ =>
    rw [hrequest] at hcommand
    cases hcommand

/-- The options of the scan. -/
def keyOptions : ScanOptions where
  root := []
  entropyThreshold := 3.5

/-- The key is found. -/
private theorem length_findingsAt_keyDirectory :
    (Scan.findingsAt keyDirectory.disk.tree keyOptions [] none ["a.py"]).length = 1 := by
  have hread : keyDirectory.disk.tree.read ["a.py"] = .ok keyDirectory.key := by cbv
  unfold Scan.findingsAt
  rw [hread]
  decide +kernel

/-- The scan of the example finds the key. -/
private theorem exists_scanDone_keyDirectory :
    ∃ p, ScanDone keyDirectory exportCommand [] p ∧ p.findings.length = 1 := by
  -- the directory is there, without settings and without an ignore list
  have hroot : keyDirectory.disk.tree.host.resolve keyDirectory.cwd "." = .ok [] := by cbv
  have hexists : keyDirectory.disk.tree.host.exists? [] = .ok true := by cbv
  have hload : Settings.load keyDirectory.disk.tree keyDirectory.cwd none (Path.text []) =
      .ok (none, {}) := by cbv
  have hoptions : ScanOptions.ofRequest keyDirectory.disk.tree keyDirectory.cwd (Path.text [])
      (exportCommand.request {}) = .ok keyOptions := by
    have hreal : keyDirectory.disk.tree.host.resolve keyDirectory.cwd (Path.text []) = .ok [] := by
      cbv
    have hdirectory : keyDirectory.disk.tree.host.directoryOf [] = .ok [] := by cbv
    have hdefault : keyDirectory.disk.tree.host.exists? ([] ++ [ScanOptions.defaultIgnoreName]) =
        .ok false := by cbv
    exact ScanOptions.ofRequest_of_accepted ⟨hreal, hexists, rfl, rfl, rfl, rfl,
      ScanOptions.ignoreFile_of_default hdirectory hdefault, rfl, rfl⟩
  -- there is one file in it
  have hfiles :
      keyDirectory.disk.tree.candidates (keyDirectory.disk.tree.realPath []) = [["a.py"]] := by
    have hlocate : keyDirectory.disk.tree.locate [] =
        .ok ([], .dir [("a.py", .file keyDirectory.key)]) := by cbv
    have hin : candidatesIn [] [("a.py", .file keyDirectory.key)] = [["a.py"]] := by decide
    simp only [FileTree.realPath, hlocate, FileTree.candidates, hin, List.mergeSort_singleton]
  have hbase : Settings.directoryOf keyDirectory.disk.tree [] = [] := by cbv
  have hw : keyDirectory.disk.tree.WellFormed := by
    simp [keyDirectory, FileTree.WellFormed, WellFormedIn, Entry.WellFormed, IsName]
  -- no limit is set, so that the scan reports what the file has
  obtain ⟨p, hrun, hfindings⟩ :=
    @Scan.findings_run_of_limit keyDirectory.disk rfl hw [] keyOptions (by simp [keyOptions]) none
      .unnamed
  have hscan : keyDirectory.scan keyDirectory.disk keyDirectory.cwd keyOptions = .ok p :=
    (mapError_eq_ok_iff (f := Scan.IgnoreListFault.message)).2 hrun
  refine ⟨p, ⟨hroot, hexists, none, {}, keyOptions, hload, hoptions, hscan⟩, ?_⟩
  rw [hfindings, show keyOptions.root = [] from rfl, hfiles, hbase]
  simpa [firstFindings, keyOptions] using length_findingsAt_keyDirectory

/-- The directory with the two documents in it. -/
def exportedTree (report sarif : Json) : FileTree where
  entries := [("a.py", .file keyDirectory.key), ("r.json", .file (fileOf report)),
    ("r.sarif", .file (fileOf sarif))]

/-- The files that the example asks for are not one and the same. -/
private theorem separateFiles_exportedTree (report sarif : Json) :
    SeparateFiles [] exportCommand (exportedTree report sarif) := by
  have hreport : Path.under [] "r.json" = ["r.json"] := by decide +kernel
  have hsarif : Path.under [] "r.sarif" = ["r.sarif"] := by decide +kernel
  -- both files are where they were put
  have hlocate : ∀ content content', (⟨[("a.py", .file keyDirectory.key),
      ("r.json", .file content), ("r.sarif", .file content')]⟩ : FileTree).locate ["r.json"] =
        .ok (["r.json"], .file content) := by
    intro content content'
    cbv
  have hlocate' : ∀ content content', (⟨[("a.py", .file keyDirectory.key),
      ("r.json", .file content), ("r.sarif", .file content')]⟩ : FileTree).locate ["r.sarif"] =
        .ok (["r.sarif"], .file content') := by
    intro content content'
    cbv
  intro r s' hr hs
  obtain rfl : "r.json" = r := Option.some.inj hr
  obtain rfl : "r.sarif" = s' := Option.some.inj hs
  rw [hreport, hsarif, FileTree.realPath, FileTree.realPath, exportedTree, hlocate, hlocate']
  exact (by decide : ["r.json"] ≠ ["r.sarif"])

/-- Both documents are written to new files. -/
private theorem write_keyDirectory {e : Export} {sarif : Json} (hsarif : e.sarif = .ok sarif) :
    e.write keyDirectory.cwd exportCommand keyDirectory.disk.tree =
      (exportedTree e.report sarif, .ok ()) := by
  -- one file is written after the other
  have hfirst : ∀ content, keyDirectory.disk.tree.write (Path.under [] "r.json") content =
      .ok ⟨[("a.py", .file keyDirectory.key), ("r.json", .file content)]⟩ := by
    intro content
    cbv
  have hsecond : ∀ content content', (⟨[("a.py", .file keyDirectory.key),
      ("r.json", .file content)]⟩ : FileTree).write (Path.under [] "r.sarif") content' =
        .ok ⟨[("a.py", .file keyDirectory.key), ("r.json", .file content),
          ("r.sarif", .file content')]⟩ := by
    intro content content'
    cbv
  have hname : Settings.given? exportCommand.out = some "r.json" := rfl
  have hname' : Settings.given? exportCommand.sarifOut = some "r.sarif" := rfl
  exact (Export.write_eq_ok_iff hsarif).2 ⟨⟨[("a.py", .file keyDirectory.key),
    ("r.json", .file (fileOf e.report))]⟩,
    (writeDocument_eq_ok_iff hname).2 (hfirst _), (writeDocument_eq_ok_iff hname').2 (hsecond _ _)⟩

/-- A run that finds a key, prints a report and writes both files. -/
theorem run_agrees_keyDirectory :
    (run keyDirectory exportArguments).ending.status? = some .findings ∧
      Request.ofArguments exportArguments = .run (.scan exportCommand) ∧
      SeparateFiles keyDirectory.cwd exportCommand (run keyDirectory exportArguments).tree ∧
      ∃ root p sarif, ScanDone keyDirectory exportCommand root p ∧ p.findings ≠ [] ∧
        Agrees keyDirectory exportCommand (run keyDirectory exportArguments) p
          (Export.ofProgress keyDirectory exportCommand root p).report sarif := by
  have hrequest := ofArguments_exportArguments
  obtain ⟨p, hdone, hlength⟩ := exists_scanDone_keyDirectory
  have hp : p.findings ≠ [] := List.ne_nil_of_length_eq_add_one hlength
  -- the scan is done and its documents are made
  obtain ⟨notices, hexport⟩ := exists_runScan_of_scanDone hdone
  let e := Export.ofProgress keyDirectory exportCommand [] p
  have hrun : run keyDirectory exportArguments =
      e.run keyDirectory exportCommand notices := by
    unfold run
    rw [hrequest]
    exact hexport
  obtain ⟨sarif, hsarif⟩ := Export.exists_sarif_ofProgress keyDirectory exportCommand [] p
  -- the documents are written, and the report is printed
  have houtcome : run keyDirectory exportArguments = {
      ending := .returned .findings
      output := e.report.pretty ++ "\n"
      notices
      tree := exportedTree e.report sarif } := by
    have hstatus : e.status = .findings := (Export.status_eq_findings_iff e).2 hp
    have hprinted : e.printed exportCommand.format keyDirectory.tableWidth =
        .ok (e.report.pretty ++ "\n") := rfl
    have hwrite : e.write keyDirectory.cwd exportCommand keyDirectory.disk.tree =
        (exportedTree e.report sarif, .ok ()) := write_keyDirectory hsarif
    rw [hrun, Export.run, hwrite]
    simp only [hprinted, hstatus]
  -- the general statement is applied to this run
  have hstatus : (run keyDirectory exportArguments).ending.status? = some .findings := by
    rw [houtcome]
    rfl
  have hseparate :
      SeparateFiles keyDirectory.cwd exportCommand (run keyDirectory exportArguments).tree := by
    rw [houtcome]
    exact separateFiles_exportedTree e.report sarif
  obtain ⟨root, p', sarif', hdone', hsome, -, hagrees⟩ :=
    (run_agrees keyDirectory exportArguments hstatus).2 exportCommand hrequest (by decide)
      hseparate
  exact ⟨hstatus, hrequest, hseparate, root, p', sarif', hdone', hsome.1 rfl, hagrees⟩

end SecretScan.CommandLine
