import SecretScan.Proofs.Detection.Anchors
import SecretScan.Proofs.Detection.Stricter
import SecretScan.Proofs.Scan.Findings

/-!
# Scans at different thresholds

A scan reports findings that are grave enough, and for rules that ask for entropy only credentials
that have enough of it. Where no entropy is given the severity that is asked for decides both, and
the entropy floor of `high` is below those of `med` and `low`. So a scan at `low` finds all that one
at `med` finds, while one at `high` can find signed tokens that the others do not.

## Key results

- `Occurrence.reportedAt_low`, `Occurrence.reportedAt_med`: what passes at a stricter threshold and
  at a looser one
- `findings_of_run_at`: a scan without a limit reports the occurrences that pass at its threshold
- `findings_of_scansAt`: the findings of scans of one tree at the three thresholds
- `not_findings_subset`: a finding at `high` that is missing at `med`
-/

namespace SecretScan

/-! ## What a threshold lets through -/

/-- Two of the built-in rules ask for entropy. -/
theorem Catalog.eq_of_requiresEntropy {r : Rule} (hr : r ∈ rules)
    (hentropy : r.requiresEntropy = true) : r = jwtToken ∨ r = genericSecret := by
  simp only [rules, List.mem_cons, List.not_mem_nil, or_false] at hr
  obtain rfl | rfl | rfl | rfl | rfl | rfl | rfl | rfl | rfl := hr
  case inr.inr.inr.inr.inr.inr.inr.inl => exact .inl rfl
  case inr.inr.inr.inr.inr.inr.inr.inr => exact .inr rfl
  all_goals cases hentropy

namespace Occurrence

/-- Does an occurrence pass in a scan at a threshold that sets the entropy too? -/
def reportedAt (s : Severity) (suppressions : List Pattern) (o : Occurrence) : Bool :=
  !o.isSuppressed suppressions && !o.lacksEntropy s.entropyFloor && o.severity.meets s

/-- Is this a signed token, raised for the words on its line, that has less entropy than a scan at
`med` asks for? -/
structure IsWeakToken (o : Occurrence) : Prop where
  rule_eq : o.rule = Catalog.jwtToken
  elevated : o.isElevated = true
  weak : entropy o.secret < 3.5

/-- An occurrence is reported at a severity if nothing suppresses it, its entropy is enough for the
severity, and it is severe enough itself. -/
theorem reportedAt_iff {s : Severity} {suppressions : List Pattern} {o : Occurrence} :
    o.reportedAt s suppressions = true ↔ o.isSuppressed suppressions = false ∧
      o.lacksEntropy s.entropyFloor = false ∧ o.severity.meets s = true := by
  simp [reportedAt, and_assoc]

/-- What passes at `med` passes at `low`. -/
theorem reportedAt_low {suppressions : List Pattern} {o : Occurrence}
    (h : o.reportedAt .med suppressions = true) : o.reportedAt .low suppressions = true := by
  obtain ⟨hsuppressed, hentropy, hmeets⟩ := reportedAt_iff.1 h
  refine reportedAt_iff.2 ⟨hsuppressed, ?_, Severity.meets_trans hmeets (by decide)⟩
  have hfloor : Severity.entropyFloor .low ≤ Severity.entropyFloor .med := by decide +kernel
  rw [← Bool.not_eq_true] at hentropy ⊢
  exact fun hlacks => hentropy (lacksEntropy_mono hfloor hlacks)

/-- What passes at `high` passes at `med`, but for weak tokens. -/
theorem reportedAt_med {suppressions : List Pattern} {o : Occurrence}
    (hrule : o.rule ∈ Catalog.rules) (h : o.reportedAt .high suppressions = true) :
    o.reportedAt .med suppressions = true ∨ o.IsWeakToken := by
  obtain ⟨hsuppressed, _, hmeets⟩ := reportedAt_iff.1 h
  cases hentropy : o.lacksEntropy (Severity.entropyFloor .med) with
  | false =>
    exact .inl (reportedAt_iff.2 ⟨hsuppressed, hentropy, Severity.meets_trans hmeets (by decide)⟩)
  | true =>
    -- only rules that ask for entropy miss it, and they reach `high` only by being raised
    simp only [lacksEntropy, Bool.and_eq_true, decide_eq_true_eq] at hentropy
    obtain heq | heq := Catalog.eq_of_requiresEntropy hrule hentropy.1
    · refine .inr ⟨heq, ?_, hentropy.2⟩
      by_contra hplain
      simp only [severity, hplain, if_false, heq] at hmeets
      cases hmeets
    · have hplain : ¬ o.isElevated = true := by simp [isElevated, heq, Catalog.genericSecret]
      simp only [severity, hplain, heq] at hmeets
      cases hmeets

end Occurrence

namespace Scan

/-! ## One file -/

/-- The text of a file that a scan looks at: of none that is left out, cannot be read or is not
worth scanning. Neither the severity nor the entropy of the options counts. -/
def textAt? (disk : Disk) (options : ScanOptions) (base : Path) (ignoreList : Option IgnoreList)
    (path : Path) : Option (List Char) :=
  if isSuppressed options ignoreList (relativePath base path) then none
  else
    match disk.tree.locate path, disk.faults.lookup path with
    | .ok (_, .file content), none =>
      if isScannable path.text content.size content.data.toList options.maxFileSize then
        some (Text.Utf8.decodeLossy content.data.toList)
      else none
    | _, _ => none

/-- The occurrences in a file that a scan looks at. -/
def occurrencesAt (disk : Disk) (options : ScanOptions) (base : Path)
    (ignoreList : Option IgnoreList) (path : Path) : List Occurrence :=
  match textAt? disk options base ignoreList path with
  | none => []
  | some text => occurrences text Catalog.rules

/-- The finding for an occurrence in a file, under its path below a directory. -/
def findingAt (base path : Path) (o : Occurrence) : Finding :=
  (o.toFinding path.text).withFile (relativePath base path)

section

variable {disk : Disk} {options : ScanOptions} {base : Path} {ignoreList : Option IgnoreList}

/-- What is found in a file is what is kept of its text, if that is looked at. -/
private theorem fileFindings_eq_keptFindings (path : Path) :
    fileFindings disk options base ignoreList path =
      match textAt? disk options base ignoreList path with
      | none => []
      | some text => keptFindings options (relativePath base path) (detect text {
          path := path.text
          entropyThreshold := options.entropyThreshold
          suppressions := options.suppressions }) := by
  unfold fileFindings textAt?
  by_cases hout : isSuppressed options ignoreList (relativePath base path) = true
  · rw [if_pos hout, if_pos hout]
  · rw [if_neg hout, if_neg hout]
    cases hloc : disk.tree.locate path with
    | error e => simp only [scanFile, hloc]
    | ok found =>
      obtain ⟨real, content | target | entries⟩ := found
      · -- the name and the size are looked at first, then the fault, then the first bytes
        simp only [scanFile, hloc]
        by_cases hcandidate : isTextCandidate path.text content.size options.maxFileSize = true
        · cases hfault : disk.faults.lookup path with
          | none =>
            cases hbinary : isBinary content.data.toList with
            | true => simp [isScannable, hcandidate, hbinary, keptFindings]
            | false => simp [isScannable, hcandidate, hbinary, findingsOf]
          | some fault => cases fault <;> simp [hcandidate]
        · cases hfault : disk.faults.lookup path with
          | none => simp [isScannable, hcandidate, keptFindings]
          | some fault => simp [hcandidate, keptFindings]
      -- what is no file has no findings, even if it is named like one
      · by_cases htext : looksLikeText path.text = true
        · simp [scanFile, hloc, htext]
        · simp [scanFile, hloc, htext, keptFindings]
      · by_cases htext : looksLikeText path.text = true
        · simp [scanFile, hloc, htext]
        · simp [scanFile, hloc, htext, keptFindings]

/-- A file has the findings of the occurrences that pass at the threshold of the scan, if that sets
the entropy too. -/
private theorem fileFindings_eq_map (h : options.entropyThreshold = options.severity.entropyFloor)
    (path : Path) :
    fileFindings disk options base ignoreList path =
      ((occurrencesAt disk options base ignoreList path).filter
        (·.reportedAt options.severity options.suppressions)).map (findingAt base path) := by
  -- a file that is left out or not read has no occurrences either
  rw [fileFindings_eq_keptFindings, occurrencesAt]
  cases textAt? disk options base ignoreList path with
  | none => rfl
  | some text =>
    simp only [keptFindings, detect, List.filter_map, List.map_map, List.filter_filter]
    congr 1
    refine List.filter_congr fun o _ => ?_
    simp only [Occurrence.reportedAt, Occurrence.passes, h, Function.comp_apply]
    exact Bool.and_comm _ _

end

/-! ## The whole scan -/

/-- A scan without a limit reports the occurrences that pass at its threshold, if that sets the
entropy too. -/
theorem findings_of_run_at {disk : Disk} {cwd : Path} {options : ScanOptions}
    (hlimit : options.maxFindings = none)
    (hfloor : options.entropyThreshold = options.severity.entropyFloor)
    {ignoreList : Option IgnoreList} {loaded : List Event}
    (hload : loadIgnoreList disk.tree cwd options.ignoreFile = .ok (ignoreList, loaded)) :
    ∃ p, run disk cwd options = .ok p ∧ p.findings =
      (disk.tree.candidates (disk.tree.realPath options.root)).flatMap fun q =>
        ((occurrencesAt disk options (Settings.directoryOf disk.tree options.root) ignoreList
          q).filter (·.reportedAt options.severity options.suppressions)).map
            (findingAt (Settings.directoryOf disk.tree options.root) q) := by
  -- without a limit all findings are kept
  have hfindings := findings_of_run_eq_ok (by simp [hlimit]) hload (run_eq_ok hload)
  refine ⟨_, run_eq_ok hload, hfindings.trans ?_⟩
  simp only [firstFindings, hlimit]
  exact List.flatMap_congr fun q _ => fileFindings_eq_map hfloor q

/-- A scan as a request asks for it, but at a severity of its own. -/
def ScansAt (disk : Disk) (cwd : Path) (root : String) (request : ScanRequest) (s : Severity)
    (p : Progress) : Prop :=
  ∃ options, ScanOptions.ofRequest disk.tree cwd root
      { request with severity := .text s.name } = .ok options ∧
    run disk cwd options = .ok p

/-- A scan comes out in one way. -/
theorem ScansAt.unique {disk : Disk} {cwd : Path} {root : String} {request : ScanRequest}
    {s : Severity} {p p' : Progress} (h : ScansAt disk cwd root request s p)
    (h' : ScansAt disk cwd root request s p') : p = p' := by
  obtain ⟨options, hoptions, hrun⟩ := h
  obtain ⟨options', hoptions', hrun'⟩ := h'
  obtain rfl := Except.ok.inj (hoptions.symm.trans hoptions')
  exact Except.ok.inj (hrun.symm.trans hrun')

/-- Is the finding that of a weak token in a file that a scan from this path looks for? -/
def IsOfWeakToken (t : FileTree) (root : Path) (f : Finding) : Prop :=
  ∃ q ∈ t.candidates (t.realPath root), ∃ content, t.read q = .ok content ∧
    ∃ o ∈ occurrences (Text.Utf8.decodeLossy content.data.toList) Catalog.rules,
      o.IsWeakToken ∧ f = findingAt (Settings.directoryOf t root) q o

section

variable {disk : Disk} {options : ScanOptions} {base path : Path} {ignoreList : Option IgnoreList}
  {o : Occurrence}

/-- What occurs in a file stands in its content. -/
private theorem exists_content_of_mem_occurrencesAt
    (ho : o ∈ occurrencesAt disk options base ignoreList path) :
    ∃ content, disk.tree.read path = .ok content ∧
      o ∈ occurrences (Text.Utf8.decodeLossy content.data.toList) Catalog.rules := by
  unfold occurrencesAt textAt? at ho
  -- a file has occurrences only if it is there, not left out, and text
  split at ho
  · exact nomatch ho
  · next text htext =>
    split at htext
    · exact nomatch htext
    · split at htext
      · next real content hloc _ =>
        split at htext
        · obtain rfl := Option.some.inj htext
          exact ⟨content, by simp only [FileTree.read, hloc], ho⟩
        · exact nomatch htext
      · exact nomatch htext

end

/-- A filter that lets more through keeps what another one keeps, in its order. -/
private theorem sublist_flatMap_map_filter {α β γ : Type} {keep keep' : β → Bool} {l : α → List β}
    (h : ∀ b, keep b = true → keep' b = true) (f : α → β → γ) (as : List α) :
    (as.flatMap fun a => ((l a).filter keep).map (f a)).Sublist
      (as.flatMap fun a => ((l a).filter keep').map (f a)) := by
  induction as with
  | nil => exact .slnil
  | cons a as ih =>
    exact ((List.monotone_filter_right _ h).map _).append ih

/-- Where neither an entropy nor a limit is given, scans at all three thresholds can be carried out
if one can. At `low` a scan finds all that it finds at `med`, and at `med` all that it finds at
`high`, but for the weak tokens among that. -/
theorem findings_of_scansAt {disk : Disk} {cwd : Path} {root : String} {request : ScanRequest}
    (hentropy : ScanOptions.isGiven request.entropy = false)
    (hlimit : ScanOptions.isGiven request.maxFindings = false) {s : Severity} {p : Progress}
    (hscan : ScansAt disk cwd root request s p) :
    ∃ path low med high, disk.tree.resolve cwd root = .ok path ∧
      ScansAt disk cwd root request .low low ∧ ScansAt disk cwd root request .med med ∧
      ScansAt disk cwd root request .high high ∧ med.findings.Sublist low.findings ∧
      ∀ f ∈ high.findings, f ∈ med.findings ∨ IsOfWeakToken disk.tree path f := by
  obtain ⟨options, hoptions, hrun⟩ := hscan
  have haccepted := ScanOptions.ofRequest_eq_ok hoptions
  have hnone : options.maxFindings = none := Except.ok.inj <|
    haccepted.maxFindings_eq.symm.trans (ScanOptions.optional_of_not_isGiven hlimit _ _)
  obtain ⟨⟨ignoreList, loaded⟩, hload, -⟩ := bind_eq_ok hrun
  -- the three requests are accepted with options that differ in nothing else
  have hscans : ∀ s' ∈ Severity.known, ∃ p', ScansAt disk cwd root request s' p' ∧
      p'.findings = (disk.tree.candidates (disk.tree.realPath options.root)).flatMap fun q =>
        ((occurrencesAt disk options (Settings.directoryOf disk.tree options.root) ignoreList
          q).filter (·.reportedAt s' options.suppressions)).map
            (findingAt (Settings.directoryOf disk.tree options.root) q) := by
    intro s' hs'
    have haccepted' := haccepted.at_severity hentropy hs'
    obtain ⟨p', hrun', hfindings⟩ := @findings_of_run_at disk cwd
      { options with severity := s', entropyThreshold := s'.entropyFloor } hnone rfl _ _ hload
    exact ⟨p', ⟨_, ScanOptions.ofRequest_of_accepted haccepted', hrun'⟩, hfindings⟩
  obtain ⟨low, hlow, hlowFindings⟩ := hscans .low (by simp [Severity.known])
  obtain ⟨med, hmed, hmedFindings⟩ := hscans .med (by simp [Severity.known])
  obtain ⟨high, hhigh, hhighFindings⟩ := hscans .high (by simp [Severity.known])
  refine ⟨options.root, low, med, high, haccepted.root_eq, hlow, hmed, hhigh, ?_, ?_⟩
  · rw [hmedFindings, hlowFindings]
    exact sublist_flatMap_map_filter (fun _ => Occurrence.reportedAt_low) _ _
  · intro f hf
    rw [hhighFindings] at hf
    obtain ⟨q, hq, hf⟩ := List.mem_flatMap.1 hf
    obtain ⟨o, ho, rfl⟩ := List.mem_map.1 hf
    obtain ⟨hmem, hreported⟩ := List.mem_filter.1 ho
    obtain ⟨content, hread, hcontent⟩ := exists_content_of_mem_occurrencesAt hmem
    have hrule := (found_of_mem_occurrences hcontent).rule_mem
    obtain hreported | hweak := Occurrence.reportedAt_med hrule hreported
    · rw [hmedFindings]
      exact .inl (List.mem_flatMap.2
        ⟨q, hq, List.mem_map_of_mem (List.mem_filter.2 ⟨hmem, hreported⟩)⟩)
    · exact .inr ⟨q, hq, content, hread, o, hcontent, hweak, rfl⟩

/-! ## A finding that a looser threshold drops -/

/-- A signed token with few different characters. -/
def weakToken : List Char :=
  "eyJJJJ".toList ++ List.replicate 8 'a' ++ '.' :: List.replicate 16 'b' ++
    '.' :: List.replicate 32 'c'

/-- The token on a line that speaks of a privileged key. -/
def weakLine : List Char :=
  weakToken ++ " supabase".toList

/-- A tree with one file, which holds that line. -/
def weakTree : FileTree where
  entries := [("s", .dir [("a.py", .file content)])]
where
  /-- The bytes of the line. -/
  content : ByteArray :=
    ⟨(weakLine.map fun c => UInt8.ofNat c.toNat).toArray⟩

/-- The text of the example. -/
private theorem decodeLossy_weakTree :
    Text.Utf8.decodeLossy weakTree.content.data.toList = weakLine := by
  have hbytes : weakTree.content.data.toList = weakLine.map fun c => UInt8.ofNat c.toNat := rfl
  have hascii : weakLine.all (fun c => c.toNat < 0x80) = true := by decide +kernel
  rw [hbytes]
  exact Text.Utf8.decodeLossy_map_ofNat (by simpa using hascii)

/-- The token is all that the rule for signed tokens finds on the line. -/
private theorem occurrences_weakLine :
    (Catalog.jwtToken.occurrences 1 weakLine).map (fun o => (o.secret, o.offset)) =
      [(weakToken, 0)] := by
  decide +kernel

/-- The text of the example is one line. -/
private theorem lines_weakLine : Text.lines weakLine = [weakLine] :=
  Text.lines_of_not_mem (by decide +kernel)

/-- A scan of the tree reports the occurrences on the line that pass. -/
theorem exists_scansAt_weakTree {s : Severity} (hs : s ∈ Severity.known) :
    ∃ p, ScansAt { tree := weakTree } [] "s" {} s p ∧ p.findings =
      ((occurrences weakLine Catalog.rules).filter (·.reportedAt s [])).map
        (findingAt ["s"] ["s", "a.py"]) := by
  let options : ScanOptions := { root := ["s"], entropyThreshold := 3.5 }
  have hexists : weakTree.host.exists? ["s"] = .ok true := by cbv
  have hbase : Settings.directoryOf weakTree ["s"] = ["s"] := by cbv
  have hdirectory : weakTree.host.directoryOf ["s"] = .ok ["s"] := by cbv
  have hdefault : weakTree.host.exists? (["s"] ++ [ScanOptions.defaultIgnoreName]) = .ok false := by
    cbv
  -- the options of the example, but for the severity
  have haccepted : ScanOptions.Accepted weakTree [] "s" {} options :=
    { root_eq := by cbv
      root_exists := hexists
      severity_eq := rfl
      entropyThreshold_eq := rfl
      maxFindings_eq := rfl
      maxFileSize_eq := rfl
      ignoreFile_eq := ScanOptions.ignoreFile_of_default hdirectory hdefault
      suppressions_eq := rfl
      progress_eq := rfl }
  -- the directory has one file, which is text
  have hfiles : weakTree.candidates (weakTree.realPath options.root) = [["s", "a.py"]] := by
    have hloc : weakTree.locate ["s"] =
        .ok (["s"], .dir [("a.py", .file weakTree.content)]) := by cbv
    have hin : candidatesIn ["s"] [("a.py", .file weakTree.content)] = [["s", "a.py"]] := by decide
    simp only [options, FileTree.realPath, hloc, FileTree.candidates, hin,
      List.mergeSort_singleton]
  have htext : textAt? { tree := weakTree } options ["s"] none ["s", "a.py"] = some weakLine := by
    have hin : isSuppressed options none (relativePath ["s"] ["s", "a.py"]) = false := by decide
    have hloc : weakTree.locate ["s", "a.py"] =
        .ok (["s", "a.py"], .file weakTree.content) := by cbv
    have hscannable : isScannable (Path.text ["s", "a.py"]) weakTree.content.size
        weakTree.content.data.toList options.maxFileSize = true := by decide +kernel
    simp [textAt?, hin, hloc, hscannable, decodeLossy_weakTree]
  have hload : loadIgnoreList weakTree [] options.ignoreFile = .ok (none, []) := rfl
  obtain ⟨p, hrun, hfindings⟩ := @findings_of_run_at { tree := weakTree } []
    { options with severity := s, entropyThreshold := s.entropyFloor } rfl rfl _ _ hload
  refine ⟨p, ⟨_, ScanOptions.ofRequest_of_accepted (haccepted.at_severity rfl hs), hrun⟩,
    hfindings.trans ?_⟩
  -- the options that depend on the severity make no difference to what occurs
  have hoccurrences : occurrencesAt { tree := weakTree }
      { options with severity := s, entropyThreshold := s.entropyFloor } ["s"] none ["s", "a.py"] =
        occurrences weakLine Catalog.rules := by
    have htext' : textAt? { tree := weakTree }
      { options with severity := s, entropyThreshold := s.entropyFloor } ["s"] none
        ["s", "a.py"] = some weakLine := htext
    rw [occurrencesAt, htext']
  simp only [hfiles, hbase, options, hoccurrences, List.flatMap_cons, List.flatMap_nil,
    List.append_nil]

/-- The token passes at `high`, where it is raised to. -/
private theorem exists_reportedAt_weakLine :
    ∃ o ∈ occurrences weakLine Catalog.rules, o.rule = Catalog.jwtToken ∧
      o.reportedAt .high [] = true := by
  have hline : (weakLine, 1) ∈ (Text.lines weakLine).zipIdx 1 := by simp [lines_weakLine]
  have hrule : Catalog.jwtToken ∈ Catalog.rules := by simp [Catalog.rules]
  obtain ⟨o, ho, horule, holine, -, hosecret, -⟩ :=
    exists_mem_occurrences hline hrule (occurrences_weakLine ▸ List.mem_singleton_self _)
  -- the words of the line raise the severity of the token
  have helevated : o.isElevated = true := by
    rw [Occurrence.isElevated, horule, holine]
    decide +kernel
  refine ⟨o, ho, horule, Occurrence.reportedAt_iff.2 ⟨rfl, ?_, ?_⟩⟩
  · -- the entropy of the token reaches the threshold of the highest severity
    rw [Occurrence.lacksEntropy, hosecret]
    have hentropy : ¬ entropy weakToken < Severity.entropyFloor .high := by decide +kernel
    simp [hentropy]
  · rw [Occurrence.severity, if_pos helevated]
    rfl

/-- No signed token on the line passes at `med`. -/
private theorem not_reportedAt_weakLine {o : Occurrence}
    (ho : o ∈ occurrences weakLine Catalog.rules)
    (hrule : o.rule.id = Catalog.jwtToken.id) : o.reportedAt .med [] = false := by
  have hfound := found_of_mem_occurrences ho
  -- the identifier tells the rule
  have hids : ∀ r ∈ Catalog.rules, r.id = Catalog.jwtToken.id → r.requiresEntropy = true := by
    decide
  have hentropy := hids _ hfound.rule_mem hrule
  have horule : o.rule = Catalog.jwtToken := by
    refine (Catalog.eq_of_requiresEntropy hfound.rule_mem hentropy).resolve_right fun heq => ?_
    rw [heq] at hrule
    exact absurd hrule (by decide)
  have holine : o.line = weakLine := by
    have hmem := hfound.line_mem
    simp only [lines_weakLine, List.zipIdx_singleton, List.mem_singleton, Prod.mk.injEq] at hmem
    exact hmem.1
  have hsecrets : ∀ m ∈ Catalog.jwtToken.pattern.findAll weakLine.toArray,
      (Catalog.jwtToken.secretOf weakLine.toArray m).1 = weakToken := by decide +kernel
  obtain ⟨m, hm, hsecret⟩ := hfound.secret_eq
  rw [horule, holine] at hm hsecret
  rw [hsecrets m hm] at hsecret
  have hweak : entropy weakToken < Severity.entropyFloor .med := by decide +kernel
  rw [← Bool.not_eq_true, Occurrence.reportedAt_iff]
  rintro ⟨-, hlacks, -⟩
  simp [Occurrence.lacksEntropy, hentropy, ← hsecret, hweak] at hlacks

/-- What a scan of the tree finds at `high` and not at `med`. -/
private theorem exists_missing_weakTree {high med : Progress}
    (hhigh : ScansAt { tree := weakTree } [] "s" {} .high high)
    (hmed : ScansAt { tree := weakTree } [] "s" {} .med med) :
    ∃ f ∈ high.findings, f ∉ med.findings := by
  obtain ⟨high', hhigh', hhighFindings⟩ := exists_scansAt_weakTree (s := .high) (by decide)
  obtain ⟨med', hmed', hmedFindings⟩ := exists_scansAt_weakTree (s := .med) (by decide)
  obtain rfl := hhigh.unique hhigh'
  obtain rfl := hmed.unique hmed'
  obtain ⟨o, ho, hrule, hreported⟩ := exists_reportedAt_weakLine
  refine ⟨findingAt ["s"] ["s", "a.py"] o, ?_, fun hf => ?_⟩
  · rw [hhighFindings]
    exact List.mem_map_of_mem (List.mem_filter.2 ⟨ho, hreported⟩)
  · -- another occurrence with this finding is one of the same rule
    rw [hmedFindings] at hf
    obtain ⟨o', ho', heq⟩ := List.mem_map.1 hf
    obtain ⟨hmem, hpasses⟩ := List.mem_filter.1 ho'
    have hid : o'.rule.id = Catalog.jwtToken.id :=
      (congrArg Finding.ruleId heq).trans (congrArg Rule.id hrule)
    rw [not_reportedAt_weakLine hmem hid] at hpasses
    exact nomatch hpasses

/-- A scan at a stricter threshold can find more. -/
theorem not_findings_subset :
    ¬ ∀ (disk : Disk) (cwd : Path) (root : String) (request : ScanRequest)
      (low med high : Progress), ScanOptions.isGiven request.entropy = false →
      ScanOptions.isGiven request.maxFindings = false →
      ScansAt disk cwd root request .low low → ScansAt disk cwd root request .med med →
      ScansAt disk cwd root request .high high →
      (∀ f ∈ high.findings, f ∈ med.findings) ∧ ∀ f ∈ med.findings, f ∈ low.findings := by
  intro hall
  -- the three scans of the tree are done, and one finding is lost between two of them
  obtain ⟨low, hlow, -⟩ := exists_scansAt_weakTree (s := .low) (by decide)
  obtain ⟨med, hmed, -⟩ := exists_scansAt_weakTree (s := .med) (by decide)
  obtain ⟨high, hhigh, -⟩ := exists_scansAt_weakTree (s := .high) (by decide)
  obtain ⟨f, hf, hmissing⟩ := exists_missing_weakTree hhigh hmed
  exact hmissing ((hall _ _ _ _ low med high rfl rfl hlow hmed hhigh).1 f hf)

/-- A token that is reported at the higher severity only. -/
theorem findings_of_scansAt_weakTree :
    ∃ med high f, ScansAt { tree := weakTree } [] "s" {} .med med ∧
      ScansAt { tree := weakTree } [] "s" {} .high high ∧ f ∈ high.findings ∧
      f ∉ med.findings ∧ IsOfWeakToken weakTree ["s"] f := by
  -- the scan for the highest severity has a finding that the next one lacks
  obtain ⟨p, hp, -⟩ := exists_scansAt_weakTree (s := .high) (by decide)
  obtain ⟨path, low, med, high, hpath, -, hmed, hhigh, -, hall⟩ := findings_of_scansAt rfl rfl hp
  have hroot : weakTree.resolve [] "s" = .ok ["s"] := by cbv
  obtain rfl := Except.ok.inj (hpath.symm.trans hroot)
  obtain ⟨f, hf, hmissing⟩ := exists_missing_weakTree hhigh hmed
  exact ⟨med, high, f, hmed, hhigh, hf, hmissing, (hall f hf).resolve_left hmissing⟩

end Scan

end SecretScan
