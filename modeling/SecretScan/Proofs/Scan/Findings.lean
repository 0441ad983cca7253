import SecretScan.Proofs.Candidates
import SecretScan.Proofs.Scan.Progress
import SecretScan.Proofs.ScanOptions

/-!
# What a scan finds

A scan of a file tree that can be read finds what one would find by looking at all candidates, one
by one and each on its own, and keeping the first findings up to the limit. `Scan.findingsAt` says
what one file has, from the tree and the options alone.

## Key results

- `exists_content_of_mem_candidates`: candidates are files that can be read
- `fileFindings_eq_findingsAt`: what a file without a fault adds to a scan is what it has
- `findings_run`: a scan finds the first findings of its candidates; without a limit, all of them
-/

namespace SecretScan

namespace FileTree

/-- The real path of a path is its own real path. -/
theorem locate_realPath {t : FileTree} (hw : t.WellFormed) {p real : Path} {e : Entry}
    (h : t.locate p = .ok (real, e)) : t.locate real = .ok (real, e) :=
  locate_of_find? hw (find?_of_locate h) (ne_link_of_locate h)

/-- A candidate of a scan is a file, which its path leads to. -/
theorem exists_content_of_mem_candidates {t : FileTree} (hw : t.WellFormed) {root q : Path}
    (hq : q ∈ t.candidates (t.realPath root)) :
    ∃ content, t.locate q = .ok (q, .file content) := by
  cases hroot : t.locate root with
  | error e =>
    -- a root that leads nowhere has no candidates
    have hreal : t.realPath root = root := by simp only [realPath, hroot]
    simp [hreal, candidates, hroot] at hq
  | ok found =>
    obtain ⟨real, e⟩ := found
    have hreal : t.realPath root = real := by simp only [realPath, hroot]
    have hloc := locate_realPath hw hroot
    rw [hreal] at hq
    cases e with
    | file content =>
      have hmem : isIncludedName real.fileName = true ∧ q = real := by
        simpa [candidates, hloc] using hq
      exact ⟨content, hmem.2 ▸ hloc⟩
    | link target => exact absurd rfl (ne_link_of_locate hroot target)
    | dir entries =>
      -- what a candidate is made of has it found as a file
      obtain ⟨below, rfl, hc⟩ := (mem_candidates_iff hw hloc q).1 hq
      obtain ⟨content, hfile⟩ := hc.isFile
      exact ⟨content, locate_of_find? hw hfile (fun _ => Entry.noConfusion)⟩

end FileTree

namespace Scan

/-! ## One file -/

/-- Is a file left out of a scan? Its path below the root may lead nowhere or out of the root, the
ignore list may ignore it, or a pattern may match it. -/
def LeftOut (options : ScanOptions) (ignoreList : Option IgnoreList) (relative : String) : Prop :=
  relative = "" ∨ relative = "." ∨ ['.', '.'] <+: relative.toList ∨
    (∃ l ∈ ignoreList, l.ignores relative = true) ∨
    ∃ p ∈ options.suppressions, p.occursIn relative.toList.toArray = true

instance (options : ScanOptions) (ignoreList : Option IgnoreList) (relative : String) :
    Decidable (LeftOut options ignoreList relative) := by
  unfold LeftOut
  infer_instance

/-- The findings of a file: none if it is left out, cannot be read or is not worth scanning; else
those of its text that are grave enough, under its path below the root. -/
def findingsAt (t : FileTree) (options : ScanOptions) (base : Path)
    (ignoreList : Option IgnoreList) (path : Path) : List Finding :=
  let relative := relativePath base path
  if LeftOut options ignoreList relative then []
  else
    match t.read path with
    | .error _ => []
    | .ok content =>
      let bytes := content.data.toList
      if isScannable path.text content.size bytes options.maxFileSize then
        let found := detect (Text.Utf8.decodeLossy bytes) {
          path := path.text
          entropyThreshold := options.entropyThreshold
          suppressions := options.suppressions }
        (found.filter fun f => f.severity.meets options.severity).map fun f =>
          { f with file := relative }
      else []

/-- What is suppressed is what a pattern or the ignore list leaves out. -/
theorem isSuppressed_iff (options : ScanOptions) (ignoreList : Option IgnoreList)
    (relative : String) :
    isSuppressed options ignoreList relative = true ↔ LeftOut options ignoreList relative := by
  have hlist : ignoreList.any (·.ignores relative) = true ↔
      ∃ l ∈ ignoreList, l.ignores relative = true := by
    cases ignoreList <;> simp
  simp [isSuppressed, leavesBase, LeftOut, or_assoc, hlist]

/-- A file without a fault is scanned, if it is worth it. -/
theorem scanFile_of_no_fault {disk : Disk} {path : Path}
    (hfault : disk.faults.lookup path = none) (options : ScanOptions) {content : ByteArray}
    (hfile : disk.tree.locate path = .ok (path, .file content)) :
    scanFile disk options path = .scanned
      (if isScannable path.text content.size content.data.toList options.maxFileSize then
        findingsOf options path.text content.data.toList else []) := by
  -- the name and the size are checked before the file is opened, the first bytes after that
  unfold scanFile
  simp only [hfile, hfault]
  unfold isScannable
  split
  · next h =>
    have h : isTextCandidate path.text content.size options.maxFileSize = false := by simpa using h
    rw [h, Bool.false_and, if_neg Bool.false_ne_true]
  · next h =>
    have h : isTextCandidate path.text content.size options.maxFileSize = true := by simpa using h
    rw [h, Bool.true_and]
    split
    · next hb => rw [hb, Bool.not_true, if_neg Bool.false_ne_true]
    · next hb => rw [Bool.eq_false_iff.2 hb, Bool.not_false, if_pos rfl]

/-- A file without a fault adds to a scan what it has. -/
theorem fileFindings_eq_findingsAt {disk : Disk} {path : Path}
    (hfault : disk.faults.lookup path = none) (options : ScanOptions) (base : Path)
    (ignoreList : Option IgnoreList) {content : ByteArray}
    (hfile : disk.tree.locate path = .ok (path, .file content)) :
    fileFindings disk options base ignoreList path =
      findingsAt disk.tree options base ignoreList path := by
  unfold fileFindings findingsAt
  have hread : disk.tree.read path = .ok content := by simp only [FileTree.read, hfile]
  -- what is left out is not read, and of the others nothing hides the findings
  by_cases hout : LeftOut options ignoreList (relativePath base path)
  · rw [if_pos hout, if_pos ((isSuppressed_iff _ _ _).2 hout)]
  · rw [if_neg hout, if_neg fun h => hout ((isSuppressed_iff _ _ _).1 h),
      scanFile_of_no_fault hfault options hfile, hread]
    simp only []
    split
    · rfl
    · rfl

/-! ## The ignore list -/

/-- The ignore list that a scan goes by, if any is named: there is none at that path, or it is a
file of UTF-8 text whose lines are all well-formed. -/
inductive IgnoreListAt (t : FileTree) (cwd : Path) : Option String → Option IgnoreList → Prop where
  | unnamed : IgnoreListAt t cwd none none
  | missing {name : String} (h : t.host.exists? (Path.under cwd name) = .ok false) :
      IgnoreListAt t cwd (some name) none
  | wellFormed {name : String} {content : ByteArray} {l : IgnoreList} (hname : name ≠ "")
      (hread : t.host.read (Path.under cwd name) = .ok content)
      (hutf8 : Text.Utf8.fault? content.data.toList = none)
      (hlines : IgnoreList.ofText
        (Text.withLineFeeds (Text.Utf8.decodeLossy content.data.toList)) = .ok l) :
      IgnoreListAt t cwd (some name) (some l)

/-- What can be read is there. -/
private theorem exists_of_read_eq_ok {t : FileTree} {p : Path} {content : ByteArray}
    (h : t.host.read p = .ok content) : t.host.exists? p = .ok true := by
  have hread : (if FileTree.pathLimit ≤ p.text.utf8ByteSize then .error .nameTooLong
      else t.read p) = .ok content := h
  -- a path that can be read is not too long, and leads to a file
  split_ifs at hread with hlong
  unfold FileTree.read at hread
  unfold Host.exists?
  simp only [FileTree.host, FileTree.kindOf, if_neg hlong]
  split at hread
  next hloc => simp only [hloc]
  next hloc => exact nomatch hread
  next hloc => exact nomatch hread

/-- An ignore list that is there is loaded. -/
private theorem loadIgnoreList_eq_ok {t : FileTree} {cwd : Path} {named : Option String}
    {ignoreList : Option IgnoreList} (h : IgnoreListAt t cwd named ignoreList) :
    ∃ events, loadIgnoreList t cwd named = .ok (ignoreList, events) := by
  cases h with
  | unnamed => exact ⟨[], rfl⟩
  | @missing name h =>
    -- an empty name is as good as none
    by_cases hname : name = ""
    · exact ⟨[], by simp [loadIgnoreList, hname, Option.filter]⟩
    · exact ⟨_, by simp [loadIgnoreList, hname, h, Option.filter]; rfl⟩
  | @wellFormed name content l hname hread hutf8 hlines =>
    have hexists := exists_of_read_eq_ok hread
    exact ⟨_, by simp [loadIgnoreList, hname, hexists, hread, hutf8, hlines, Option.filter]; rfl⟩

/-- What comes of an ignore list that is loaded, and what is logged of it. -/
theorem loadIgnoreList_cases {t : FileTree} {cwd : Path} {named : Option String}
    {ignoreList : Option IgnoreList} {loaded : List Event}
    (h : loadIgnoreList t cwd named = .ok (ignoreList, loaded)) :
    (ignoreList = none ∧ loaded = []) ∨
      (∃ file, ignoreList = none ∧ loaded = [.ignoreListMissing file]) ∨
      ∃ file l, ignoreList = some l ∧ loaded = [.ignoreListLoaded file] := by
  unfold loadIgnoreList at h
  split at h
  · -- none is named
    obtain ⟨rfl, rfl⟩ := Prod.mk.inj (Except.ok.inj h)
    exact .inl ⟨rfl, rfl⟩
  · simp only at h
    split at h
    · cases h
    · obtain ⟨rfl, rfl⟩ := Prod.mk.inj (Except.ok.inj h)
      exact .inr (.inl ⟨_, rfl, rfl⟩)
    · -- it is there, so it is read and understood, as nothing fails
      split at h
      · cases h
      · split at h
        · cases h
        · split at h
          · obtain ⟨rfl, rfl⟩ := Prod.mk.inj (Except.ok.inj h)
            exact .inr (.inr ⟨_, _, rfl, rfl⟩)
          · cases h

/-! ## The whole scan -/

/-- A scan with a positive limit keeps the first findings of all candidates. -/
theorem findings_run_of_limit {disk : Disk} (hfaults : disk.faults = [])
    (hw : disk.tree.WellFormed) (cwd : Path) {options : ScanOptions}
    (hlimit : ∀ n, options.maxFindings = some n → 0 < n) {ignoreList : Option IgnoreList}
    (hlist : IgnoreListAt disk.tree cwd options.ignoreFile ignoreList) :
    ∃ p, run disk cwd options = .ok p ∧ p.findings = firstFindings options.maxFindings
      ((disk.tree.candidates (disk.tree.realPath options.root)).flatMap
        (findingsAt disk.tree options (Settings.directoryOf disk.tree options.root)
          ignoreList)) := by
  obtain ⟨events, hload⟩ := loadIgnoreList_eq_ok hlist
  have hfindings := findings_of_run_eq_ok hlimit hload (run_eq_ok hload)
  refine ⟨_, run_eq_ok hload, hfindings.trans (congrArg (firstFindings options.maxFindings) ?_)⟩
  -- file by file, as every candidate can be read
  apply List.flatMap_congr
  intro q hq
  obtain ⟨content, hfile⟩ := FileTree.exists_content_of_mem_candidates hw hq
  have hfault : disk.faults.lookup q = none := by rw [hfaults]; rfl
  exact fileFindings_eq_findingsAt hfault options _ ignoreList hfile

/-- A scan that was asked for, of a tree that can be read, looks at every candidate and reports the
first findings of all of them, up to the limit; they are the first of what the scan would report if
it had none. -/
theorem findings_run {disk : Disk} (hfaults : disk.faults = []) (hw : disk.tree.WellFormed)
    {cwd : Path} {root : String} {request : ScanRequest} {options : ScanOptions}
    (hoptions : ScanOptions.ofRequest disk.tree cwd root request = .ok options)
    {ignoreList : Option IgnoreList}
    (hlist : IgnoreListAt disk.tree cwd options.ignoreFile ignoreList) :
    let files := disk.tree.candidates (disk.tree.realPath options.root)
    let base := Settings.directoryOf disk.tree options.root
    let all := files.flatMap (findingsAt disk.tree options base ignoreList)
    (∀ q ∈ files, ∃ content, disk.tree.read q = .ok content) ∧
    (∃ p, run disk cwd options = .ok p ∧ p.findings = firstFindings options.maxFindings all) ∧
    ∃ p, run disk cwd { options with maxFindings := none } = .ok p ∧ p.findings = all := by
  intro files base all
  -- an accepted request has a positive limit, if any
  have hlimit := (ScanOptions.ofRequest_eq_ok hoptions).maxFindings_pos
  refine ⟨?_, findings_run_of_limit hfaults hw cwd hlimit hlist, ?_⟩
  · intro q hq
    obtain ⟨content, hfile⟩ := FileTree.exists_content_of_mem_candidates hw hq
    exact ⟨content, by simp only [FileTree.read, hfile]⟩
  · -- no other option has to do with the limit
    have hunlimited : ∀ n,
      ({ options with maxFindings := none } : ScanOptions).maxFindings = some n →
        0 < n := fun _ h => nomatch h
    exact findings_run_of_limit hfaults hw cwd hunlimited hlist

/-- A tree with three files that hold a key, of which the ignore list ignores the last. -/
def keyTree : FileTree where
  entries := [("s", .dir [(".secret-scan-ignore", .file ignored), ("a.py", .file key),
    ("b.py", .file key), ("c.py", .file key)])]
where
  /-- The bytes of the key. -/
  key : ByteArray :=
    ⟨#[65, 75, 73, 65, 65, 66, 67, 68, 69, 70, 71, 72, 73, 74, 75, 76, 77, 78, 79, 80]⟩
  /-- The bytes of the name `c.py` and a line feed. -/
  ignored : ByteArray :=
    ⟨#[99, 46, 112, 121, 10]⟩

/-- One finding is asked for, of any severity. -/
def oneFinding : ScanRequest where
  severity := .text "low"
  maxFindings := .int 1

/-- The options that are asked for. -/
def keyTreeOptions : ScanOptions where
  root := ["s"]
  maxFindings := some 1
  severity := .low
  entropyThreshold := Severity.low.entropyFloor
  ignoreFile := some "/s/.secret-scan-ignore"

/-- The ignore list of the tree. -/
def keyTreeIgnores : IgnoreList :=
  (IgnoreList.ofText "c.py\n".toList).toOption.getD ⟨[]⟩

/-- The ignore list of the example. -/
private theorem ofText_keyTreeIgnores : IgnoreList.ofText "c.py\n".toList = .ok keyTreeIgnores := by
  have hsome : (IgnoreList.ofText "c.py\n".toList).toOption.isSome = true := by decide +kernel
  unfold keyTreeIgnores
  cases h : IgnoreList.ofText "c.py\n".toList with
  | ok l => rfl
  | error e => rw [h] at hsome; exact nomatch hsome

/-- The options of the example. -/
private theorem ofRequest_keyTree : ScanOptions.ofRequest keyTree
    [] "s" oneFinding = .ok keyTreeOptions := by
  have hroot : keyTree.host.resolve [] "s" = .ok ["s"] := by cbv
  have hexists : keyTree.host.exists? ["s"] = .ok true := by cbv
  have hdirectory : keyTree.host.directoryOf ["s"] = .ok ["s"] := by cbv
  -- the limit is read as a number
  have hone : ScanOptions.positiveOf .invalidMaxFindings (.int 1) = .ok 1 := by
    have hread : Decimal.floatOfInt? 1 = some 1 := by decide +kernel
    have hfraction : Decimal.BinaryFraction.ofFloat? 1 = some ⟨false, 2 ^ 52, -52⟩ := by
      decide +kernel
    exact ScanOptions.positiveOf_of_number (by simp only [Value.number, hread]) (by decide +kernel)
      hfraction (by decide) (by decide)
  have hdefault : keyTree.host.exists? (["s"] ++ [ScanOptions.defaultIgnoreName]) = .ok true := by
    cbv
  refine ScanOptions.ofRequest_of_accepted ⟨hroot, hexists, rfl, rfl, ?_, rfl,
    ScanOptions.ignoreFile_of_default hdirectory hdefault, rfl, rfl⟩
  show (some <$> ScanOptions.positiveOf .invalidMaxFindings (.int 1)) = .ok (some 1)
  rw [hone]
  rfl

/-- The ignore list of the example is found in its tree. -/
private theorem ignoreListAt_keyTree :
    IgnoreListAt keyTree [] keyTreeOptions.ignoreFile (some keyTreeIgnores) := by
  -- the list is read through its real path
  have hpath : Path.under [] "/s/.secret-scan-ignore" = ["s", ".secret-scan-ignore"] := by cbv
  have hread : keyTree.host.read (Path.under [] "/s/.secret-scan-ignore") =
      .ok keyTree.ignored := by
    rw [hpath]
    cbv
  have htext : Text.withLineFeeds (Text.Utf8.decodeLossy keyTree.ignored.data.toList) =
      "c.py\n".toList := by decide +kernel
  exact .wellFormed (by decide) hread (by decide +kernel) (htext ▸ ofText_keyTreeIgnores)

/-- The candidates of the example. -/
private theorem candidates_keyTree : keyTree.candidates (keyTree.realPath ["s"]) =
    [["s", "a.py"], ["s", "b.py"], ["s", "c.py"]] := by
  -- the directory is gone through by name
  have hloc : keyTree.locate ["s"] = .ok (["s"], .dir [
      (".secret-scan-ignore", .file keyTree.ignored),
      ("a.py", .file keyTree.key), ("b.py", .file keyTree.key), ("c.py", .file keyTree.key)]) := by
    cbv
  have hin : candidatesIn ["s"] [(".secret-scan-ignore", .file keyTree.ignored),
      ("a.py", .file keyTree.key), ("b.py", .file keyTree.key), ("c.py", .file keyTree.key)] =
        [["s", "a.py"], ["s", "b.py"], ["s", "c.py"]] := by decide
  simp only [FileTree.realPath, hloc, FileTree.candidates, hin]
  exact List.mergeSort_of_pairwise (by decide)

/-- What the files of the tree have: one finding each, but for the one that is ignored. -/
private theorem length_findingsAt_keyTree :
    (findingsAt keyTree keyTreeOptions ["s"] (some keyTreeIgnores) ["s", "a.py"]).length = 1 ∧
      (findingsAt keyTree keyTreeOptions ["s"] (some keyTreeIgnores) ["s", "b.py"]).length = 1 ∧
      (findingsAt keyTree keyTreeOptions ["s"] (some keyTreeIgnores) ["s", "c.py"]).length = 0 := by
  -- each file is read, and its findings are evaluated
  have hfirst : keyTree.read ["s", "a.py"] = .ok keyTree.key := by cbv
  have hsecond : keyTree.read ["s", "b.py"] = .ok keyTree.key := by cbv
  have hthird : keyTree.read ["s", "c.py"] = .ok keyTree.key := by cbv
  unfold findingsAt
  rw [hfirst, hsecond, hthird]
  decide +kernel

/-- A scan for one finding reports the first; without the limit there are two. -/
theorem findings_run_keyTree :
    (({ tree := keyTree } : Disk).faults = [] ∧ keyTree.WellFormed ∧
      ScanOptions.ofRequest keyTree [] "s" oneFinding = .ok keyTreeOptions ∧
      IgnoreListAt keyTree [] keyTreeOptions.ignoreFile (some keyTreeIgnores)) ∧
    (∃ p, run { tree := keyTree } [] keyTreeOptions = .ok p ∧ p.findings =
      findingsAt keyTree keyTreeOptions ["s"] (some keyTreeIgnores) ["s", "a.py"] ∧
      p.findings.length = 1) ∧
    ∃ p, run { tree := keyTree } [] { keyTreeOptions with maxFindings := none } = .ok p ∧
      p.findings.length = 2 := by
  have hw : keyTree.WellFormed := by
    simp [keyTree, FileTree.WellFormed, WellFormedIn, Entry.WellFormed, IsName]
  -- what the directory is, and which files it has, is read off the tree
  have hbase : Settings.directoryOf keyTree ["s"] = ["s"] := by cbv
  obtain ⟨hfirst, hsecond, hthird⟩ := length_findingsAt_keyTree
  obtain ⟨-, ⟨p, hrun, hp⟩, p', hrun', hp'⟩ :=
    @findings_run { tree := keyTree } rfl hw [] "s" oneFinding keyTreeOptions ofRequest_keyTree _
      ignoreListAt_keyTree
  dsimp only at hp hp'
  rw [show keyTreeOptions.root = ["s"] from rfl, candidates_keyTree, hbase] at hp hp'
  refine ⟨⟨rfl, hw, ofRequest_keyTree, ignoreListAt_keyTree⟩, ⟨p, hrun, ?_⟩, p', hrun', ?_⟩
  · -- each file has one finding, so the first file reaches the limit
    have hone : p.findings =
        findingsAt keyTree keyTreeOptions ["s"] (some keyTreeIgnores) ["s", "a.py"] := by
      rw [hp, show keyTreeOptions.maxFindings = some 1 from rfl, firstFindings,
        List.flatMap_cons]
      exact List.take_left' hfirst
    exact ⟨hone, hone ▸ hfirst⟩
  · simp [hp', hfirst, hsecond, hthird]

end Scan

end SecretScan
