import SecretScan.Proofs.Scan.Stopping

/-!
# Which files a scan passes over

A scan passes over a file if its path below the root seems to lead out of the root, if the ignore
list ignores it, or if a pattern matches it. Whether a path leads out is read off the text of it: a
text that starts with two dots is taken for one that goes up from the root. A name can start with
two dots and be an ordinary one. So next to files that do lie elsewhere, a scan passes over those
below the root whose first name starts with two dots.

## Key results

- `leavesBase_iff`: which paths are taken for ones that lead out of a directory
- `leftOut_iff_of_mem_candidates`: which candidates of a scan are left out
- `ignoredIn_next`, `ignoredIn_foldl_next`: what one file, and all files, add to the files that are
  passed over
- `passedOver_run`: the files that a scan passes over
-/

namespace SecretScan

/-- What is a directory leads to one. -/
private theorem FileTree.exists_locate_of_isDir {t : FileTree} {p : Path} (h : t.isDir p = true) :
    ∃ real entries, t.locate p = .ok (real, .dir entries) := by
  unfold isDir at h
  split at h
  · next real entries hloc => exact ⟨real, entries, hloc⟩
  · cases h

namespace Scan

/-! ## Ways from a directory -/

/-- A path below a base shares all names of the base. -/
private theorem sharedNames_append (base below : Path) : sharedNames base
    (base ++ below) = base.length := by
  induction base with
  | nil => cases below <;> rfl
  | cons name base ih => rw [List.cons_append, sharedNames, if_pos rfl, ih, List.length_cons]

/-- The way to what lies in a directory goes down only. -/
private theorem relativePath_append {base below : Path} (hne : below ≠ []) :
    relativePath base (base ++ below) = "/".intercalate below := by
  simp [relativePath, sharedNames_append, hne]

/-- A path that does not lie in a directory parts from it. -/
private theorem sharedNames_lt_of_not_prefix {base q : Path} (h : ¬ base <+: q) :
    sharedNames base q < base.length := by
  -- the induction is on the names of the base, until the first one that differs
  induction base generalizing q with
  | nil => exact absurd List.nil_prefix h
  | cons name base ih =>
    cases q with
    | nil => simp [sharedNames]
    | cons n q =>
      rw [sharedNames]
      split
      · next heq =>
        subst heq
        have hrest : ¬ base <+: q := fun hprefix => h (List.cons_prefix_cons.2 ⟨rfl, hprefix⟩)
        have hlt := ih hrest
        rw [List.length_cons]
        omega
      · rw [List.length_cons]
        omega

/-- The text of a way starts with the text of its first name. -/
theorem prefix_intercalate (name : String) (rest : List String) :
    name.toList <+: ("/".intercalate (name :: rest)).toList := by
  cases rest with
  | nil => simp
  | cons n rest => simp

/-- Does a path lie in a directory, under a name that starts with two dots? -/
def StartsWithDots (base q : Path) : Prop :=
  ∃ name rest, q = base ++ name :: rest ∧ ['.', '.'] <+: name.toList

/-- A proper name is not spelled by the first dots of two. -/
private theorem not_prefix_dots {name : String} (h : IsName name) : ¬ name.toList <+:
    ['.', '.'] := by
  obtain ⟨hempty, hdot, hdots, _⟩ := h
  intro hprefix
  -- the beginnings of two dots are none, one and both, and none of them is a name
  have hmem : name.toList ∈ ['.', '.'].inits := (List.mem_inits _ _).2 hprefix
  obtain heq | heq | heq : name = "" ∨ name.toList = ['.'] ∨ name.toList = ['.', '.'] := by
    simpa using hmem
  · exact hempty heq
  · exact hdot (String.toList_inj.1 heq)
  · exact hdots (String.toList_inj.1 heq)

/-- The text of a way down starts with two dots exactly if its first name does. -/
private theorem prefix_intercalate_iff {name : String} (hname : IsName name) (rest : List String) :
    ['.', '.'] <+: ("/".intercalate (name :: rest)).toList ↔ ['.', '.'] <+: name.toList := by
  have hfirst := prefix_intercalate name rest
  constructor
  · intro h
    exact (List.prefix_or_prefix_of_prefix h hfirst).resolve_right (not_prefix_dots hname)
  · exact fun h => h.trans hfirst

/-- A path is taken for one that leads out of a directory if it does, or if the first name on the
way starts with two dots. -/
theorem leavesBase_iff {base q : Path} (hq : ∀ n ∈ q, IsName n) (hne : q ≠ base) :
    leavesBase (relativePath base q) = true ↔ ¬ base <+: q ∨ StartsWithDots base q := by
  have hleaves : ∀ text : String, leavesBase text = true ↔
      text = "" ∨ text = "." ∨ ['.', '.'] <+: text.toList := by
    simp [leavesBase, or_assoc]
  rw [hleaves]
  by_cases hbase : base <+: q
  · obtain ⟨below, rfl⟩ := hbase
    cases below with
    | nil => exact absurd (List.append_nil base) hne
    | cons name rest =>
      have hname : IsName name := hq name (by simp)
      have hfirst := prefix_intercalate name rest
      have hstarts : StartsWithDots base (base ++ name :: rest) ↔ ['.', '.'] <+: name.toList := by
        constructor
        · rintro ⟨name', rest', heq, hdots⟩
          obtain ⟨rfl, -⟩ := List.cons.inj (List.append_cancel_left heq)
          exact hdots
        · exact fun hdots => ⟨name, rest, rfl, hdots⟩
      -- the text is not empty and not a single dot, as it starts with a proper name
      have hshort : ∀ text : String, text.toList <+: ['.', '.'] →
          "/".intercalate (name :: rest) ≠ text := by
        rintro text htext rfl
        exact not_prefix_dots hname (hfirst.trans htext)
      have hempty := hshort "" (by decide)
      have hdot := hshort "." (by decide)
      rw [relativePath_append (List.cons_ne_nil name rest), hstarts]
      simp only [hempty, hdot, false_or, prefix_intercalate_iff hname, List.prefix_append,
        not_true]
  · -- the way goes up first
    have hlt := sharedNames_lt_of_not_prefix hbase
    obtain ⟨more, hmore⟩ : ∃ more, base.length - sharedNames base q = more + 1 :=
      ⟨base.length - sharedNames base q - 1, by omega⟩
    have hup : relativePath base q = "/".intercalate
        (".." :: (List.replicate more ".." ++ q.drop (sharedNames base q))) := by
      simp [relativePath, hmore, List.replicate_succ]
    have hdots : ['.', '.'] <+: (relativePath base q).toList := by
      rw [hup]
      exact prefix_intercalate ".." _
    simp [hdots, hbase]

/-! ## Candidates -/

section

variable {disk : Disk} {options : ScanOptions} {ignoreList : Option IgnoreList}

/-- Which of the candidates of a scan that starts at a directory are left out. -/
theorem leftOut_iff_of_mem_candidates (hw : disk.tree.WellFormed)
    (hdir : disk.tree.isDir options.root = true) {q : Path}
    (hq : q ∈ disk.tree.candidates (disk.tree.realPath options.root)) :
    LeftOut options ignoreList (relativePath options.root q) ↔
      ¬ options.root <+: q ∨ StartsWithDots options.root q ∨
      (∃ l ∈ ignoreList, l.ignores (relativePath options.root q) = true) ∨
      ∃ p ∈ options.suppressions,
        p.occursIn (relativePath options.root q).toList.toArray = true := by
  obtain ⟨content, hfile⟩ := FileTree.exists_content_of_mem_candidates hw hq
  have hnames := (FileTree.wellFormed_of_findIn? hw (FileTree.find?_of_locate hfile)).2
  have hne : q ≠ options.root := by
    -- one is a file, the other a directory
    rintro rfl
    simp [FileTree.isDir, hfile] at hdir
  rw [← or_assoc, ← leavesBase_iff hnames hne]
  simp [LeftOut, leavesBase, or_assoc]

/-- The candidates of a scan that starts at the real path of a directory lie in it. -/
private theorem prefix_of_mem_candidates (hw : disk.tree.WellFormed)
    (hdir : disk.tree.isDir options.root = true)
    (hreal : disk.tree.realPath options.root = options.root) {q : Path}
    (hq : q ∈ disk.tree.candidates (disk.tree.realPath options.root)) : options.root <+: q := by
  obtain ⟨real, entries, hloc⟩ := FileTree.exists_locate_of_isDir hdir
  rw [hreal] at hq
  obtain ⟨below, rfl, _⟩ := (FileTree.mem_candidates_iff hw hloc q).1 hq
  exact List.prefix_append _ _

end

/-! ## What is logged -/

/-- The path below the root of a file, if the event is that it was passed over. -/
def ignoredPath? : Event → Option String
  | .fileIgnored path => some path
  | _ => none

/-- The files that were passed over. -/
def ignoredIn (events : List Event) : List String :=
  events.filterMap ignoredPath?

/-- What is noted as ignored, in one part of the log and the other. -/
theorem ignoredIn_append (events events' : List Event) :
    ignoredIn (events ++ events') = ignoredIn events ++ ignoredIn events' :=
  List.filterMap_append

/-- To load an ignore list is not to pass over a file. -/
private theorem ignoredIn_of_loadIgnoreList {t : FileTree} {cwd : Path} {named : Option String}
    {ignoreList : Option IgnoreList} {loaded : List Event}
    (h : loadIgnoreList t cwd named = .ok (ignoreList, loaded)) : ignoredIn loaded = [] := by
  obtain ⟨_, rfl⟩ | ⟨_, _, rfl⟩ | ⟨_, _, _, rfl⟩ := loadIgnoreList_cases h
  · rfl
  · rfl
  · rfl

namespace Progress

/-- One event more tells of one ignored path more, or of none. -/
theorem ignoredIn_log (p : Progress) (e : Event) :
    ignoredIn (p.log e).events = ignoredIn p.events ++ (ignoredPath? e).toList := by
  rw [log, ignoredIn_append]
  cases e <;> rfl

/-- To take in findings is not to pass over a file. -/
private theorem ignoredIn_collect (p : Progress) (options : ScanOptions) (kept : List Finding) :
    ignoredIn (p.collect options kept).events = ignoredIn p.events := by
  unfold collect
  -- collecting logs the limit at most, which is no file left out
  split
  · rfl
  · simp only [apply_ite Progress.events]
    split
    · exact (ignoredIn_append _ _).trans (List.append_nil _)
    · rfl

section

variable {disk : Disk} {options : ScanOptions} {base : Path} {ignoreList : Option IgnoreList}

/-- Of a file that is left out nothing but this is noted. -/
private theorem next_of_leftOut {p : Progress} (h : p.collector.stopped = false) {path : Path}
    (hout : LeftOut options ignoreList (relativePath base path)) :
    p.next disk options base ignoreList path = p.log (.fileIgnored (relativePath base path)) := by
  unfold next
  simp only [h, Bool.false_eq_true, if_false, (isSuppressed_iff _ _ _).2 hout, if_true]

/-- A file is passed over exactly if it is left out. -/
theorem ignoredIn_next {p : Progress} (h : p.collector.stopped = false) (path : Path) :
    ignoredIn (p.next disk options base ignoreList path).events = ignoredIn p.events ++
      if LeftOut options ignoreList (relativePath base path) then [relativePath base path]
      else [] := by
  -- only a file that is left out is noted as ignored
  by_cases hout : LeftOut options ignoreList (relativePath base path)
  · rw [next_of_leftOut h hout, if_pos hout, ignoredIn_log]
    rfl
  · have hkept : isSuppressed options ignoreList (relativePath base path) = false :=
      Bool.eq_false_iff.2 (mt (isSuppressed_iff _ _ _).1 hout)
    unfold next
    simp only [h, Bool.false_eq_true, if_false, hkept, if_neg hout, List.append_nil]
    cases scanFile disk options path with
    | failed reason => simp [ignoredIn_log, ignoredPath?]
    | unreadable reason => simp [ignoredIn_collect, ignoredIn_log, ignoredPath?]
    | scanned found => exact ignoredIn_collect p options _

/-- The files that are passed over are those that are left out, of all to which a scan comes. -/
theorem ignoredIn_foldl_next {p p' : Progress} {looked : List Path}
    (hp' : looked.foldl (next disk options base ignoreList) p = p')
    (hrun : ∀ before q after, looked = before ++ q :: after →
      (before.foldl (next disk options base ignoreList) p).collector.stopped = false) :
    ignoredIn p'.events = ignoredIn p.events ++
      (looked.filter fun q => LeftOut options ignoreList (relativePath base q)).map
        (relativePath base) := by
  -- from the end of the list, as a file is passed over after those before it
  induction looked using List.reverseRecOn generalizing p' with
  | nil =>
    obtain rfl := hp'
    simp
  | append_singleton looked path ih =>
    have hbefore := hrun looked path [] rfl
    have hfirst := ih rfl fun before q after hsplit =>
      hrun before q (after ++ [path]) (by simp [hsplit])
    rw [List.foldl_append, List.foldl_cons, List.foldl_nil] at hp'
    obtain rfl := hp'
    rw [ignoredIn_next hbefore, hfirst, List.filter_append, List.map_append, List.append_assoc]
    by_cases hout : LeftOut options ignoreList (relativePath base path)
    · simp [hout]
    · simp [hout]

end

end Progress

/-! ## The whole scan -/

/-- The files that a scan of a directory passes over are those to which it comes and that lie
elsewhere, start with two dots below the root, are ignored by the ignore list or are matched by a
pattern. From a real directory none lies elsewhere. What is passed over is logged and not
counted. -/
theorem passedOver_run {disk : Disk} (hw : disk.tree.WellFormed) (cwd : Path)
    {options : ScanOptions} (hdir : disk.tree.isDir options.root = true)
    (hlimit : ∀ n, options.maxFindings = some n → 0 < n) {ignoreList : Option IgnoreList}
    {loaded : List Event}
    (hload : loadIgnoreList disk.tree cwd options.ignoreFile = .ok (ignoreList, loaded)) :
    let root := options.root
    let files := disk.tree.candidates (disk.tree.realPath root)
    (∀ q ∈ files, LeftOut options ignoreList (relativePath root q) ↔
      ¬ root <+: q ∨ StartsWithDots root q ∨
      (∃ l ∈ ignoreList, l.ignores (relativePath root q) = true) ∨
      ∃ p ∈ options.suppressions, p.occursIn (relativePath root q).toList.toArray = true) ∧
    (disk.tree.realPath root = root → ∀ q ∈ files, root <+: q) ∧
    ∃ p looked, run disk cwd options = .ok p ∧
      LookedAt options.maxFindings (fileFindings disk options root ignoreList) files looked ∧
      ignoredIn p.events = (looked.filter fun q =>
        LeftOut options ignoreList (relativePath root q)).map (relativePath root) ∧
      p.collector.filesScanned = looked.countP (Counted disk options root ignoreList ·) := by
  intro root files
  have hbase : Settings.directoryOf disk.tree root = root := if_pos hdir
  have hconsistent : (start options files loaded).collector.Consistent :=
    Collector.consistent_empty hlimit
  obtain ⟨looked, hlooked, hall, hrun, _⟩ := Progress.exists_lookedAt disk options root
    ignoreList hconsistent rfl rfl files
  generalize hp : looked.foldl (Progress.next disk options root ignoreList)
    (start options files loaded) = p at hall
  have hignored := Progress.ignoredIn_foldl_next hp hrun
  obtain ⟨_, hcount, _⟩ := Progress.collected_of_foldl_next rfl hp hrun
  -- before its first file and after its last one a scan logs other things
  have hstart : ignoredIn (start options files loaded).events = [] := by
    rw [start, ignoredIn_append, ignoredIn_of_loadIgnoreList hload]
    rfl
  have hfinish : ignoredIn p.finish.events = ignoredIn p.events :=
    (ignoredIn_append _ _).trans (List.append_nil _)
  refine ⟨fun q hq => leftOut_iff_of_mem_candidates hw hdir hq,
    fun hreal q hq => prefix_of_mem_candidates hw hdir hreal hq, p.finish, looked, ?_, hlooked, ?_,
    ?_⟩
  · rw [run_eq_ok hload, hbase]
    exact congrArg (fun p : Progress => Except.ok p.finish) hall
  · rw [hfinish, hignored, hstart, List.nil_append]
  · exact hcount.trans (Nat.zero_add _)

/-- A directory with two files, one of which has a name that starts with two dots. -/
def dottedTree : FileTree where
  entries := [("s", .dir [("..config.py", .file ⟨#[97]⟩), ("a.py", .file ⟨#[97]⟩)])]

/-- A file whose name begins with two dots. -/
theorem passedOver_run_dottedTree :
    ∃ (options : ScanOptions) (p : Progress), options.root = ["s"] ∧ dottedTree.WellFormed ∧
      dottedTree.isDir ["s"] = true ∧
      dottedTree.candidates ["s"] = [["s", "..config.py"], ["s", "a.py"]] ∧
      ["s"] <+: ["s", "..config.py"] ∧ StartsWithDots ["s"] ["s", "..config.py"] ∧
      run { tree := dottedTree } [] options = .ok p ∧
      ignoredIn p.events = ["..config.py"] ∧ p.collector.filesScanned = 1 := by
  have hw : dottedTree.WellFormed := by
    simp [dottedTree, FileTree.WellFormed, WellFormedIn, Entry.WellFormed, IsName]
  let options : ScanOptions := { root := ["s"], entropyThreshold := 3.5 }
  have hdir : dottedTree.isDir options.root = true := by cbv
  have hlimit : ∀ n, options.maxFindings = some n → 0 < n := by
    intro n h
    cases h
  have hload : loadIgnoreList dottedTree [] options.ignoreFile = .ok (none, []) := rfl
  have hreal : dottedTree.realPath options.root = ["s"] := by cbv
  have hfiles : dottedTree.candidates ["s"] = [["s", "..config.py"], ["s", "a.py"]] := by
    have hloc : dottedTree.locate ["s"] =
        .ok (["s"], .dir [("..config.py", .file ⟨#[97]⟩), ("a.py", .file ⟨#[97]⟩)]) := by cbv
    have hin : candidatesIn ["s"] [("..config.py", .file ⟨#[97]⟩), ("a.py", .file ⟨#[97]⟩)] =
        [["s", "..config.py"], ["s", "a.py"]] := by decide
    simp only [FileTree.candidates, hloc, hin]
    exact List.mergeSort_of_pairwise (by decide)
  obtain ⟨_, _, p, looked, hrun, hlooked, hignored, hcount⟩ :=
    @passedOver_run { tree := dottedTree } hw [] options hdir hlimit none [] hload
  -- without a limit the scan comes to all files
  rw [hreal, hfiles] at hlooked
  have hall : looked = [["s", "..config.py"], ["s", "a.py"]] := by
    obtain ⟨rest, hrest, hreached⟩ := hlooked.rest
    cases rest with
    | nil => simpa using hrest.symm
    | cons q rest =>
      obtain ⟨n, hn, _⟩ := hreached (List.cons_ne_nil q rest)
      cases hn
  have hout : LeftOut options none (relativePath ["s"] ["s", "..config.py"]) := by decide
  have hkept : ¬ LeftOut options none (relativePath ["s"] ["s", "a.py"]) := by decide
  have hcounted : Counted { tree := dottedTree } options ["s"] none ["s", "a.py"] := by
    have hfile : dottedTree.locate ["s", "a.py"] = .ok (["s", "a.py"], .file ⟨#[97]⟩) := by cbv
    exact ⟨hkept, by rw [scanFile_of_no_fault rfl options hfile]; rfl⟩
  have hnot : ¬ Counted { tree := dottedTree } options ["s"] none ["s", "..config.py"] :=
    fun h => h.1 hout
  refine ⟨options, p, rfl, hw, hdir, hfiles, by decide, ⟨"..config.py", [], rfl, by decide⟩, hrun,
    ?_, ?_⟩
  · have hfilter : looked.filter (fun q => LeftOut options none (relativePath ["s"] q)) =
        [["s", "..config.py"]] := by
      rw [hall]
      simp [hout, hkept]
    have hname : relativePath ["s"] ["s", "..config.py"] = "..config.py" := by decide
    rw [hignored, hfilter, List.map_singleton, hname]
  · rw [hcount, hall]
    simp [options, hnot, hcounted]

end Scan

end SecretScan
