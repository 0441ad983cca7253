import SecretScan.Proofs.Scan.Stopping

/-!
# Scans of disks with faults

Reading a file may go wrong. A file that cannot be read is counted and has no findings; one at which
the work breaks off is not even counted. The other files have what they would have without faults,
so a fault can only take away the findings of its own file, and make room for others up to the
limit.

## Key results

- `fileFindings_of_faults`: a file without a fault adds what it has, one with a fault adds nothing
- `counted_iff`: which files are counted
- `findings_run_of_faults`: what a scan of a disk with faults finds and counts
-/

namespace SecretScan.Scan

/-- Is a file opened when a scan comes to it? That is left to those that look like text and are not
too large. -/
def Opened (disk : Disk) (options : ScanOptions) (path : Path) : Prop :=
  ∃ content, disk.tree.read path = .ok content ∧
    isTextCandidate path.text content.size options.maxFileSize = true

instance (disk : Disk) (options : ScanOptions) (path : Path) :
    Decidable (Opened disk options path) :=
  match h : disk.tree.read path with
  | .ok content =>
    decidable_of_iff (isTextCandidate path.text content.size options.maxFileSize = true)
      (by simp [Opened, h])
  | .error _ => isFalse (by simp [Opened, h])

/-- Is a file opened, with a failure of another kind than that it cannot be read? -/
def Crashes (disk : Disk) (options : ScanOptions) (path : Path) : Prop :=
  Opened disk options path ∧ ∃ reason, disk.faults.lookup path = some (.failure reason)

instance (disk : Disk) (options : ScanOptions) (path : Path) :
    Decidable (Crashes disk options path) :=
  match h : disk.faults.lookup path with
  | some (.failure _) => decidable_of_iff (Opened disk options path) (by simp [Crashes, h])
  | some .denied | none => isFalse (by simp [Crashes, h])

/-- Which files are looked at is decided by what is found in them. -/
theorem LookedAt.congr {limit : Option Int} {findings findings' : Path → List Finding}
    {files looked : List Path} (h : LookedAt limit findings files looked)
    (heq : ∀ q ∈ files, findings' q = findings q) : LookedAt limit findings' files looked := by
  obtain ⟨⟨rest, rfl, hreached⟩, hbelow⟩ := h
  -- whatever is looked at is one of the files, whose findings are the same
  have hlooked : ∀ before after, looked = before ++ after →
      before.flatMap findings' = before.flatMap findings := by
    intro before after hsplit
    exact List.flatMap_congr fun q hq => heq q (by simp [hsplit, hq])
  refine ⟨⟨rest, rfl, ?_⟩, fun before q after hsplit => ?_⟩
  · rwa [hlooked looked [] (by simp)]
  · rw [hlooked before (q :: after) hsplit]
    exact hbelow before q after hsplit

/-! ## One file -/

section

variable {disk : Disk} {options : ScanOptions} {path : Path} {content : ByteArray}

/-- A file is opened unless its name or its size speaks against it. -/
theorem opened_iff (options : ScanOptions)
    (hfile : disk.tree.locate path = .ok (path, .file content)) :
    Opened disk options path ↔
      isTextCandidate path.text content.size options.maxFileSize = true := by
  have hread : disk.tree.read path = .ok content := by simp only [FileTree.read, hfile]
  simp [Opened, hread]

/-- What comes of a file with a fault: nothing is found, and the work breaks off if the fault is a
failure that shows when the file is opened. -/
private theorem scanFile_of_fault (hfile : disk.tree.locate path = .ok (path, .file content))
    {fault : ReadFault} (hfault : disk.faults.lookup path = some fault) :
    (∀ found, scanFile disk options path = .scanned found → found = []) ∧
      ((scanFile disk options path).isFailed = true ↔ Crashes disk options path) := by
  unfold scanFile Crashes
  simp only [hfile, hfault, opened_iff options hfile]
  -- a file of another kind is not opened; an opened one meets the fault
  cases htext : isTextCandidate path.text content.size options.maxFileSize with
  | false => simp [Outcome.isFailed]
  | true => cases fault <;> simp [Outcome.isFailed]

/-- A file without a fault adds to a scan what it has, and one with a fault adds nothing. -/
theorem fileFindings_of_faults (base : Path) (ignoreList : Option IgnoreList)
    (hfile : disk.tree.locate path = .ok (path, .file content)) :
    fileFindings disk options base ignoreList path =
      if disk.faults.lookup path = none then findingsAt disk.tree options base ignoreList path
      else [] := by
  cases hfault : disk.faults.lookup path with
  | none =>
    rw [if_pos rfl]
    exact fileFindings_eq_findingsAt hfault options base ignoreList hfile
  | some fault =>
    -- a fault can only hide findings; a file that is not opened has none
    rw [if_neg (Option.some_ne_none fault)]
    unfold fileFindings
    cases hscan : scanFile disk options path with
    | scanned found =>
      obtain rfl := (scanFile_of_fault hfile hfault).1 found hscan
      simp [keptFindings]
    | unreadable reason => simp
    | failed reason => simp

/-- A file is counted unless it is left out or crashes. -/
theorem counted_iff (base : Path) (ignoreList : Option IgnoreList)
    (hfile : disk.tree.locate path = .ok (path, .file content)) :
    Counted disk options base ignoreList path ↔
      ¬ LeftOut options ignoreList (relativePath base path) ∧ ¬ Crashes disk options path := by
  unfold Counted
  rw [← Bool.not_eq_true]
  cases hfault : disk.faults.lookup path with
  | none =>
    -- without a fault nothing can crash
    have hcrash : ¬ Crashes disk options path := by
      rintro ⟨_, reason, hreason⟩
      rw [hfault] at hreason
      exact nomatch hreason
    rw [scanFile_of_no_fault hfault options hfile]
    simp [Outcome.isFailed, hcrash]
  | some fault => rw [(scanFile_of_fault hfile hfault).2]

end

/-! ## The whole scan -/

/-- What a filtered list is mapped to, item by item. -/
private theorem flatMap_filter_eq {α β : Type} (keep : α → Bool) (f : α → List β) (l : List α) :
    (l.filter keep).flatMap f = l.flatMap fun a => if keep a then f a else [] := by
  induction l with
  | nil => rfl
  | cons a l ih => cases h : keep a <;> simp [h, ih]

/-- What the candidates add to a scan is what those without a fault have. -/
private theorem flatMap_fileFindings_of_faults {disk : Disk} (hw : disk.tree.WellFormed)
    (options : ScanOptions) (base : Path) (ignoreList : Option IgnoreList) :
    (disk.tree.candidates (disk.tree.realPath options.root)).flatMap
        (fileFindings disk options base ignoreList) =
      ((disk.tree.candidates (disk.tree.realPath options.root)).filter
        fun q => disk.faults.lookup q = none).flatMap
          (findingsAt disk.tree options base ignoreList) := by
  -- file by file, as every candidate is a file that its path leads to
  rw [flatMap_filter_eq]
  apply List.flatMap_congr
  intro q hq
  obtain ⟨content, hfile⟩ := FileTree.exists_content_of_mem_candidates hw hq
  rw [fileFindings_of_faults base ignoreList hfile]
  by_cases hfault : disk.faults.lookup q = none
  · rw [if_pos hfault, if_pos (decide_eq_true hfault)]
  · rw [if_neg hfault, if_neg fun h => hfault (of_decide_eq_true h)]

/-- A scan of a disk with faults ends as any scan, with the first findings, up to the limit, of the
files without a fault; each of them has the findings that the scan of the disk without faults has
for it. Of the files that were looked at, those that could not be read are counted, and those that
crashed are not. -/
theorem findings_run_of_faults (disk : Disk) (hw : disk.tree.WellFormed) (cwd : Path)
    {options : ScanOptions} (hlimit : ∀ n, options.maxFindings = some n → 0 < n)
    {ignoreList : Option IgnoreList} {loaded : List Event}
    (hload : loadIgnoreList disk.tree cwd options.ignoreFile = .ok (ignoreList, loaded)) :
    let files := disk.tree.candidates (disk.tree.realPath options.root)
    let base := Settings.directoryOf disk.tree options.root
    let kept := findingsAt disk.tree options base ignoreList
    (∃ p, run { tree := disk.tree } cwd { options with maxFindings := none } = .ok p ∧
      p.findings = files.flatMap kept) ∧
    ∃ p looked, run disk cwd options = .ok p ∧ p.phases.getLast? = some .done ∧
      p.findings = firstFindings options.maxFindings
        ((files.filter (disk.faults.lookup · = none)).flatMap kept) ∧
      LookedAt options.maxFindings (fun q => if disk.faults.lookup q = none then kept q else [])
        files looked ∧
      p.collector.filesScanned = looked.countP fun q =>
        ¬ LeftOut options ignoreList (relativePath base q) ∧ ¬ Crashes disk options q := by
  intro files base kept
  have hcandidate : ∀ q ∈ files, ∃ content, disk.tree.locate q = .ok (q, .file content) :=
    fun q hq => FileTree.exists_content_of_mem_candidates hw hq
  have hconsistent : (start options files loaded).collector.Consistent :=
    Collector.consistent_empty hlimit
  obtain ⟨looked, hlooked, hall, hrun, -⟩ :=
    Progress.exists_lookedAt disk options base ignoreList hconsistent rfl rfl files
  obtain ⟨-, hcount, -⟩ := Progress.collected_of_foldl_next rfl hall.symm hrun
  constructor
  · -- without faults and without a limit, nothing is left away
    let clean : Disk := { tree := disk.tree }
    let unlimited : ScanOptions := { options with maxFindings := none }
    have hw' : clean.tree.WellFormed := hw
    have hlimit' : ∀ n, unlimited.maxFindings = some n → 0 < n := fun _ h => nomatch h
    have hload' : loadIgnoreList clean.tree cwd unlimited.ignoreFile = .ok (ignoreList, loaded) :=
      hload
    have hfindings := findings_of_run_eq_ok hlimit' hload' (run_eq_ok hload')
    rw [flatMap_fileFindings_of_faults hw'] at hfindings
    have hfilter : files.filter (fun q => clean.faults.lookup q = none) = files := by
      simp [clean]
    exact ⟨_, run_eq_ok hload', hfindings.trans (congrArg (List.flatMap kept) hfilter)⟩
  -- with faults, the files that are hit have no findings
  have hfindings := findings_of_run_eq_ok hlimit hload (run_eq_ok hload)
  rw [flatMap_fileFindings_of_faults hw] at hfindings
  refine ⟨_, looked, run_eq_ok hload, by simp [Progress.finish], hfindings,
    hlooked.congr fun q hq => ?_, ?_⟩
  · obtain ⟨content, hfile⟩ := hcandidate q hq
    exact (fileFindings_of_faults base ignoreList hfile).symm
  · -- the count is of the files that were looked at, which are candidates
    obtain ⟨rest, hrest, -⟩ := hlooked.rest
    refine (hcount.trans (Nat.zero_add _)).trans (List.countP_congr fun q hq => ?_)
    obtain ⟨content, hfile⟩ := hcandidate q (hrest ▸ List.mem_append_left rest hq)
    simp only [decide_eq_true_eq, counted_iff base ignoreList hfile]

/-- Three files, of which the first cannot be read and the second crashes. -/
def faultyDisk : Disk where
  tree := { entries := [("s", .dir [("a.py", .file ⟨#[97]⟩), ("b.py", .file ⟨#[98]⟩),
    ("c.py", .file ⟨#[99]⟩)])] }
  faults := [(["s", "a.py"], .denied), (["s", "b.py"], .failure "boom")]

/-- Of three files only the last one is read. -/
theorem findings_run_of_faults_faultyDisk :
    ∃ options p, faultyDisk.tree.WellFormed ∧ options.maxFindings = none ∧
      loadIgnoreList faultyDisk.tree [] options.ignoreFile = .ok (none, []) ∧
      run faultyDisk [] options = .ok p ∧ p.phases.getLast? = some .done ∧
      p.findings = findingsAt faultyDisk.tree options ["s"] none ["s", "c.py"] ∧
      p.collector.filesScanned = 2 := by
  let options : ScanOptions := { root := ["s"], entropyThreshold := 3.5 }
  have hw : faultyDisk.tree.WellFormed := by
    simp [faultyDisk, FileTree.WellFormed, WellFormedIn, Entry.WellFormed, IsName]
  have hload : loadIgnoreList faultyDisk.tree [] options.ignoreFile = .ok (none, []) := rfl
  have hnone : ∀ n, options.maxFindings = some n → 0 < n := by rintro n ⟨⟩
  have hbase : Settings.directoryOf faultyDisk.tree options.root = ["s"] := by cbv
  have hfiles : faultyDisk.tree.candidates (faultyDisk.tree.realPath options.root) =
      [["s", "a.py"], ["s", "b.py"], ["s", "c.py"]] := by
    have hloc : faultyDisk.tree.locate ["s"] = .ok (["s"], .dir [("a.py", .file ⟨#[97]⟩),
        ("b.py", .file ⟨#[98]⟩), ("c.py", .file ⟨#[99]⟩)]) := by cbv
    have hin : candidatesIn ["s"] [("a.py", .file ⟨#[97]⟩), ("b.py", .file ⟨#[98]⟩),
        ("c.py", .file ⟨#[99]⟩)] = [["s", "a.py"], ["s", "b.py"], ["s", "c.py"]] := by decide
    simp only [options, FileTree.realPath, hloc, FileTree.candidates, hin]
    exact List.mergeSort_of_pairwise (by decide)
  obtain ⟨-, p, looked, hrun, hdone, hfindings, hlooked, hcount⟩ :=
    findings_run_of_faults faultyDisk hw [] hnone hload
  rw [hfiles, hbase] at hfindings hlooked
  rw [hbase] at hcount
  refine ⟨options, p, hw, rfl, hload, hrun, hdone, hfindings.trans ?_, hcount.trans ?_⟩
  · -- of the three files only the last one is hit by no fault
    have hfilter : [["s", "a.py"], ["s", "b.py"], ["s", "c.py"]].filter
        (fun q => faultyDisk.faults.lookup q = none) = [["s", "c.py"]] := by decide
    rw [hfilter, List.flatMap_singleton]
    rfl
  · -- without a limit, all files are looked at
    obtain ⟨rest, hrest, hreached⟩ := hlooked.rest
    have hnil : rest = [] := by
      by_contra hne
      obtain ⟨n, hn, -⟩ := hreached hne
      cases hn
    rw [hnil, List.append_nil] at hrest
    rw [← hrest]
    have hin : ∀ q ∈ [["s", "a.py"], ["s", "b.py"], ["s", "c.py"]],
        ¬ LeftOut options none (relativePath ["s"] q) := by decide
    -- a file is counted unless its fault is a crash
    have hopened : Opened faultyDisk options ["s", "b.py"] := ⟨⟨#[98]⟩, by cbv, by decide⟩
    have hb : Crashes faultyDisk options ["s", "b.py"] := ⟨hopened, "boom", by decide⟩
    have ha : ¬ Crashes faultyDisk options ["s", "a.py"] := by
      rintro ⟨-, reason, h⟩
      cases h
    have hc : ¬ Crashes faultyDisk options ["s", "c.py"] := by
      rintro ⟨-, reason, h⟩
      cases h
    simp only [List.forall_mem_cons] at hin
    simp [hin, ha, hb, hc]

end SecretScan.Scan
