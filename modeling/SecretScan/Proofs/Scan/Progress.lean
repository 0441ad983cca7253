import SecretScan.Scan

/-!
# How a scan goes on

A scan takes its files one after the other (`Scan.Progress.next`) and stops taking in findings once
there are enough of them. This module says what one file adds to a scan that has not stopped, what
holds of the collector after every file, and, from both, what a scan has collected at its end.

## Key results

- `findings_next`: a file adds its own findings, whatever was found before
- `consistent_next`: the collector is stopped exactly if it has reached its limit
- `kept_foldl_next`: after all files, the findings that are kept are the first of all that the
  files have, although the scan may have stopped early
- `findings_of_run_eq_ok`: a scan reports the first findings of its files
-/

namespace SecretScan

/-- The first findings up to a limit; all of them if there is none. -/
def firstFindings (limit : Option Int) (l : List Finding) : List Finding :=
  match limit with
  | none => l
  | some n => l.take n.toNat

namespace Collector

/-- A collector as a scan uses it: its limit, if it has one, is above zero, and it is stopped
exactly if the limit is reached. -/
structure Consistent (c : Collector) : Prop where
  limit_pos : ∀ n, c.limit = some n → 0 < n
  stopped_eq : c.stopped = c.reaches c.findings.length

/-- A positive limit is one. -/
private theorem limit?_of_pos {c : Collector} {n : Int} (h : c.limit = some n) (hn : 0 < n) :
    c.limit? = some n := by
  have hne : n ≠ 0 := by omega
  simp [limit?, h, Option.filter, hne]

/-- A limit is reached by as many findings. -/
theorem reaches_of_limit {c : Collector} {n : Int} (h : c.limit = some n) (hn : 0 < n)
    (count : Nat) : c.reaches count = decide (n ≤ count) := by
  simp [reaches, limit?_of_pos h hn]

/-- Without a limit none is reached. -/
theorem reaches_of_no_limit {c : Collector} (h : c.limit = none) (count : Nat) :
    c.reaches count = false := by
  simp [reaches, limit?, h]

/-- A limit that is reached is reached by more findings as well. -/
private theorem reaches_mono {c : Collector} {count count' : Nat} (hle : count ≤ count')
    (h : c.reaches count = true) : c.reaches count' = true := by
  unfold reaches at h ⊢
  cases hlimit : c.limit? with
  | none => simp [hlimit] at h
  | some n =>
    simp only [hlimit, Option.any_some, decide_eq_true_eq, Int.ofNat_eq_natCast] at h ⊢
    omega

/-- A collector that has no findings yet is consistent. -/
theorem consistent_empty {limit : Option Int} (h : ∀ n, limit = some n → 0 < n) :
    Consistent (empty limit) := by
  refine ⟨h, ?_⟩
  -- with no findings a positive limit is not reached
  cases hlimit : limit with
  | none => rw [reaches_of_no_limit rfl, empty_stopped]
  | some n =>
    have hn := h n hlimit
    rw [reaches_of_limit rfl hn, empty_findings, empty_stopped]
    simpa using hn

/-- Counting a file keeps the collector consistent. -/
theorem consistent_fileDone {c : Collector} (h : c.Consistent) : c.fileDone.Consistent :=
  ⟨h.limit_pos, h.stopped_eq⟩

/-- Adding findings keeps the collector consistent. -/
theorem consistent_add {c : Collector} (h : c.Consistent) (found : List Finding) :
    (c.add found).1.Consistent := by
  refine ⟨h.limit_pos, ?_⟩
  have hreaches : ∀ count, (c.add found).1.reaches count = c.reaches count := fun _ => rfl
  -- it is stopped if it was before, or if the findings have now reached the limit
  rw [add_findings, hreaches]
  show (c.stopped || (!c.stopped && c.reaches (c.findings ++ found).length)) = _
  cases hstopped : c.stopped with
  | false => simp
  | true =>
    -- a limit that is reached stays reached
    have hle : c.findings.length ≤ (c.findings ++ found).length := by simp
    rw [reaches_mono hle (h.stopped_eq ▸ hstopped)]
    rfl

/-- Of a consistent collector the first findings up to the limit are kept. -/
private theorem kept_eq_firstFindings {c : Collector} (h : c.Consistent) :
    c.kept = firstFindings c.limit c.findings := by
  unfold kept firstFindings
  -- without a limit all findings are kept, and with one the first of them
  cases hlimit : c.limit with
  | none => simp [limit?, hlimit]
  | some n =>
    have hn := h.limit_pos n hlimit
    have hle : 0 ≤ n := by omega
    simp [limit?_of_pos hlimit hn, firstOnes, hle]

/-- What comes after the limit is reached is not kept. -/
private theorem firstFindings_append_of_stopped {c : Collector} (h : c.Consistent)
    (hstopped : c.stopped = true) (found : List Finding) :
    firstFindings c.limit (c.findings ++ found) = firstFindings c.limit c.findings := by
  -- there are at least as many findings already as are kept
  cases hlimit : c.limit with
  | none =>
    rw [h.stopped_eq, reaches_of_no_limit hlimit] at hstopped
    exact nomatch hstopped
  | some n =>
    rw [h.stopped_eq, reaches_of_limit hlimit (h.limit_pos n hlimit), decide_eq_true_eq] at hstopped
    exact List.take_append_of_le_length (by omega)

end Collector

namespace Scan

/-- The findings that a file adds to a scan. -/
def fileFindings (disk : Disk) (options : ScanOptions) (base : Path)
    (ignoreList : Option IgnoreList) (path : Path) : List Finding :=
  let relative := relativePath base path
  if isSuppressed options ignoreList relative then []
  else
    match scanFile disk options path with
    | .scanned found => keptFindings options relative found
    | _ => []

namespace Progress

/-! ## One file -/

/-- Noting an event leaves the collector as it is. -/
@[simp] theorem collector_log (p : Progress) (e : Event) : (p.log e).collector = p.collector :=
  rfl

/-- Findings are taken in at the end. -/
private theorem findings_collect (p : Progress) (options : ScanOptions) (kept : List Finding) :
    (p.collect options kept).collector.findings = p.collector.findings ++ kept := by
  unfold collect
  split
  · next h => simp [List.isEmpty_iff.1 h, Collector.fileDone]
  -- the events that tell of a limit leave the collector alone
  · simp only [apply_ite Progress.collector, ite_self]
    rfl

/-- Collecting does not change the limit. -/
private theorem limit_collect (p : Progress) (options : ScanOptions) (kept : List Finding) :
    (p.collect options kept).collector.limit = p.collector.limit := by
  unfold collect
  split
  · rfl
  · simp only [apply_ite Progress.collector, ite_self]
    rfl

/-- Collecting keeps the collector consistent. -/
private theorem consistent_collect {p : Progress} (h : p.collector.Consistent)
    (options : ScanOptions)
    (kept : List Finding) : (p.collect options kept).collector.Consistent := by
  unfold collect
  split
  · exact Collector.consistent_fileDone h
  · simp only [apply_ite Progress.collector, ite_self]
    exact Collector.consistent_fileDone (Collector.consistent_add h kept)

section

variable {disk : Disk} {options : ScanOptions} {base : Path} {ignoreList : Option IgnoreList}

/-- A scan that has stopped looks at no more files. -/
theorem next_of_stopped {p : Progress} (h : p.collector.stopped = true) (path : Path) :
    p.next disk options base ignoreList path = p := by
  unfold next
  rw [if_pos h]

/-- A file adds its findings, whatever was found before. -/
theorem findings_next {p : Progress} (h : p.collector.stopped = false) (path : Path) :
    (p.next disk options base ignoreList path).collector.findings =
      p.collector.findings ++ fileFindings disk options base ignoreList path := by
  unfold next fileFindings
  simp only [h, Bool.false_eq_true, if_false]
  -- a file that is left out or fails adds nothing
  split
  · simp
  · cases scanFile disk options path with
    | failed reason => simp
    | unreadable reason => simp [findings_collect]
    | scanned found => simp [findings_collect]

/-- The next file does not change the limit. -/
theorem limit_next (p : Progress) (path : Path) :
    (p.next disk options base ignoreList path).collector.limit = p.collector.limit := by
  unfold next
  -- nothing in a step changes the limit
  split
  · rfl
  · simp only []
    split
    · rfl
    · cases scanFile disk options path with
      | failed reason => rfl
      | unreadable reason => exact limit_collect (p.log _) options []
      | scanned found => exact limit_collect p options _

/-- The next file keeps the collector consistent. -/
theorem consistent_next {p : Progress} (h : p.collector.Consistent) (path : Path) :
    (p.next disk options base ignoreList path).collector.Consistent := by
  unfold next
  -- the collector changes by what is collected, and in no other way
  split
  · exact h
  · simp only []
    split
    · exact h
    · cases scanFile disk options path with
      | failed reason => exact h
      | unreadable reason => exact consistent_collect (p := p.log _) h options []
      | scanned found => exact consistent_collect h options _

/-! ## All files -/

/-- A scan that has stopped stays as it is. -/
theorem foldl_next_of_stopped {p : Progress} (h : p.collector.stopped = true) (files : List Path) :
    files.foldl (next disk options base ignoreList) p = p := by
  induction files with
  | nil => rfl
  | cons path files ih => rw [List.foldl_cons, next_of_stopped h, ih]

/-- What is kept after all files: the first of all findings, up to the limit. -/
theorem kept_foldl_next {p : Progress} (h : p.collector.Consistent) (files : List Path) :
    (files.foldl (next disk options base ignoreList) p).collector.kept =
      firstFindings p.collector.limit
        (p.collector.findings ++ files.flatMap (fileFindings disk options base ignoreList)) := by
  -- by induction on the files, for every consistent collector to start from
  induction files generalizing p with
  | nil => simp [Collector.kept_eq_firstFindings h]
  | cons path files ih =>
    cases hstopped : p.collector.stopped with
    | true =>
      -- nothing more is taken in, and nothing more would be kept
      rw [foldl_next_of_stopped hstopped, Collector.kept_eq_firstFindings h,
        Collector.firstFindings_append_of_stopped h hstopped]
    | false =>
      -- one more file, after which the collector is consistent again
      rw [List.foldl_cons, ih (consistent_next h path), limit_next, findings_next hstopped,
        List.flatMap_cons, List.append_assoc]

end

end Progress

/-! ## The whole scan -/

/-- A scan before its first file. -/
def start (options : ScanOptions) (files : List Path) (loaded : List Event) : Progress where
  collector := .empty options.maxFindings
  phases := [.idle, .enumerating, .scanning]
  events := loaded ++ [.candidatesFound files.length options.root.text]

/-- A scan after its last file. -/
def Progress.finish (p : Progress) : Progress where
  collector := p.collector
  phases := p.phases ++ [.done]
  events := p.events ++ [.scanComplete p.collector.filesScanned p.collector.kept.length]

/-- A scan whose ignore list could be loaded goes through the candidates one by one. -/
theorem run_eq_ok {disk : Disk} {cwd : Path} {options : ScanOptions}
    {ignoreList : Option IgnoreList} {loaded : List Event}
    (hload : loadIgnoreList disk.tree cwd options.ignoreFile = .ok (ignoreList, loaded)) :
    run disk cwd options =
      let files := disk.tree.candidates (disk.tree.realPath options.root)
      let base := Settings.directoryOf disk.tree options.root
      .ok (files.foldl (Progress.next disk options base ignoreList)
        (start options files loaded)).finish := by
  -- the rest of the scan is a fold over the candidates
  unfold run
  rw [hload]
  rfl

/-- A scan without its ignore list fails. -/
theorem run_eq_error {disk : Disk} {cwd : Path} {options : ScanOptions} {fault : IgnoreListFault}
    (hload : loadIgnoreList disk.tree cwd options.ignoreFile = .error fault) :
    run disk cwd options = .error fault := by
  unfold run
  rw [hload]
  rfl

/-- A scan reports the first findings of its files, up to the limit. -/
theorem findings_of_run_eq_ok {disk : Disk} {cwd : Path} {options : ScanOptions}
    (hlimit : ∀ n, options.maxFindings = some n → 0 < n) {ignoreList : Option IgnoreList}
    {loaded : List Event}
    (hload : loadIgnoreList disk.tree cwd options.ignoreFile = .ok (ignoreList, loaded))
    {p : Progress} (hrun : run disk cwd options = .ok p) :
    p.findings = firstFindings options.maxFindings
      ((disk.tree.candidates (disk.tree.realPath options.root)).flatMap
        (fileFindings disk options (Settings.directoryOf disk.tree options.root) ignoreList)) := by
  rw [run_eq_ok hload] at hrun
  obtain rfl := Except.ok.inj hrun
  -- the scan starts with an empty collector, which is consistent
  exact Progress.kept_foldl_next (Collector.consistent_empty hlimit) _

end Scan

end SecretScan
