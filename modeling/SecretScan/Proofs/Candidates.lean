import Mathlib
import SecretScan.Candidate
import SecretScan.Proofs.FileTree.Reordered

/-!
# Which files are candidates

`FileTree.candidates` walks down from a directory, leaves out what it does not look at on the way,
and sorts what it has found. This module says what it finds without speaking of a walk:
`FileTree.HasCandidate` asks only what the tree has at certain paths.

## Key results

- `mem_candidatesIn`: the walk finds the candidates and nothing else
- `nodup_candidatesIn`: it finds none of them twice
- `candidates_of_directory`: the list of a directory holds its candidates, in strictly ascending
  order, and does not depend on the order in which directories list their entries
-/

namespace SecretScan

/-- Does a scan look at the file that has the path `below` in a directory? It must be a regular
file with a proper name, and all directories on the way must be real ones that are not left out. -/
structure FileTree.HasCandidate (t : FileTree) (directory below : Path) : Prop where
  below_ne_nil : below ≠ []
  isFile : ∃ content, t.find? (directory ++ below) = some (.file content)
  through : ∀ above name rest, below = above ++ name :: rest → rest ≠ [] →
    (∃ entries, t.find? (directory ++ above ++ [name]) = some (.dir entries)) ∧
      name ∉ excludedDirectories
  isIncluded : isIncludedName (Path.fileName below) = true

/-- The same, for the entries of a directory. -/
def IsCandidateIn (entries : List (String × Entry)) (below : Path) : Prop :=
  (∃ content, FileTree.findIn? entries below = some (.file content)) ∧
    (∀ name ∈ below.dropLast, name ∉ excludedDirectories) ∧
    isIncludedName (Path.fileName below) = true

namespace FileTree

/-! ## The walk -/

/-- Among entries nothing is a candidate by the empty path. -/
theorem not_isCandidateIn_nil (entries : List (String × Entry)) : ¬ IsCandidateIn entries [] := by
  rintro ⟨⟨content, h⟩, _⟩
  simp [findIn?] at h

/-- A file is a candidate under its own name, if that is a proper one. -/
private theorem isCandidateIn_file {entries : List (String × Entry)} {name : String}
    {content : ByteArray}
    (h : child? entries name = some (.file content)) (below : Path) :
    IsCandidateIn entries (name :: below) ↔ below = [] ∧ isIncludedName name = true := by
  unfold IsCandidateIn
  rw [findIn?, h]
  -- with names below it a file has no entry
  cases below with
  | nil => simp [Path.fileName]
  | cons n below => simp

/-- Of entries that all have other names, none is on the way to a candidate. -/
private theorem ne_of_isCandidateIn {entries : List (String × Entry)} (hw : WellFormedIn entries)
    {name n : String} (hne : ∀ p ∈ entries, p.1 ≠ name) {below : Path}
    (h : IsCandidateIn entries (n :: below)) : n ≠ name := by
  rintro rfl
  obtain ⟨⟨content, hfile⟩, _⟩ := h
  rw [findIn?] at hfile
  -- what has an entry below is there, under a name that no other entry has
  cases hchild : child? entries n with
  | none => simp [hchild] at hfile
  | some e => exact hne _ ((child?_eq_some_iff hw n e).1 hchild) rfl

/-- There are no candidates behind a link. -/
private theorem not_isCandidateIn_link {entries : List (String × Entry)} {name target : String}
    (h : child? entries name = some (.link target)) (below : Path) :
    ¬ IsCandidateIn entries (name :: below) := by
  rintro ⟨⟨content, hfile⟩, _⟩
  rw [findIn?, h] at hfile
  cases below <;> simp at hfile

/-- The candidates in a directory within are its own, unless it is left out. -/
private theorem isCandidateIn_dir {entries inner : List (String × Entry)} {name : String}
    (h : child? entries name = some (.dir inner)) (below : Path) :
    IsCandidateIn entries (name :: below) ↔
      name ∉ excludedDirectories ∧ IsCandidateIn inner below := by
  cases below with
  | nil =>
    -- the directory itself is no file
    have hnot : ¬ IsCandidateIn entries [name] := by
      rintro ⟨⟨content, hfile⟩, _⟩
      rw [findIn?, h] at hfile
      simp [findIn?] at hfile
    simp only [hnot, not_isCandidateIn_nil, and_false]
  | cons n below =>
    have hfile : Path.fileName (name :: n :: below) = Path.fileName (n :: below) := by
      simp [Path.fileName]
    unfold IsCandidateIn
    rw [findIn?, h, hfile, List.dropLast_cons_of_ne_nil (List.cons_ne_nil n below),
      List.forall_mem_cons]
    constructor
    · rintro ⟨hfound, ⟨hname, hway⟩, hincluded⟩
      exact ⟨hname, hfound, hway, hincluded⟩
    · rintro ⟨hname, hfound, hway, hincluded⟩
      exact ⟨hfound, ⟨hname, hway⟩, hincluded⟩

/-- What stands first in a directory does not matter for the other names. -/
private theorem isCandidateIn_cons_of_ne {name n : String} (hn : n ≠ name) (e : Entry)
    (rest : List (String × Entry)) (below : Path) :
    IsCandidateIn ((name, e) :: rest) (n :: below) ↔ IsCandidateIn rest (n :: below) := by
  unfold IsCandidateIn
  rw [findIn?, findIn?, child?_cons, if_neg hn]

mutual

/-- The walk finds the candidates at or below an entry, under the path of the entry. -/
private theorem mem_entryCandidates : ∀ (e : Entry), e.WellFormed →
    ∀ (path : Path) (name : String) (q : Path), q ∈ e.candidates path name ↔
      ∃ below, q = path ++ name :: below ∧ IsCandidateIn [(name, e)] (name :: below)
  | .file content, _, path, name, q => by
    simp only [Entry.candidates, isCandidateIn_file (child?_cons_self name _ [])]
    split
    · next h => simp [h]
    · next h => simp [h]
  | .link target, _, path, name, q => by
    simp [Entry.candidates, not_isCandidateIn_link (child?_cons_self name _ [])]
  | .dir inner, hw, path, name, q => by
    simp only [Entry.candidates, isCandidateIn_dir (child?_cons_self name _ [])]
    split
    · -- left out: nothing below it is a candidate
      next h => simp [List.contains_iff_mem.1 h]
    · next h =>
      have hname : name ∉ excludedDirectories := fun hm => h (List.contains_iff_mem.2 hm)
      simp [mem_candidatesIn inner hw, hname]

/-- The walk finds the candidates in a directory, under the path of the directory. -/
theorem mem_candidatesIn : ∀ (entries : List (String × Entry)), WellFormedIn entries →
    ∀ (path q : Path), q ∈ candidatesIn path entries ↔
      ∃ below, q = path ++ below ∧ IsCandidateIn entries below
  | [], _, path, q => by
    have hnone : ∀ below, ¬ IsCandidateIn [] below := by
      rintro (_ | ⟨n, below⟩) ⟨⟨content, h⟩, _⟩
      · simp [findIn?] at h
      · simp [findIn?, child?] at h
    simp [candidatesIn, hnone]
  | (name, e) :: rest, ⟨_, hne, he, hrest⟩, path, q => by
    rw [candidatesIn, List.mem_append, mem_entryCandidates e he, mem_candidatesIn rest hrest]
    -- below the first name, the other entries do not matter
    have hfirst : ∀ below, IsCandidateIn ((name, e) :: rest) (name :: below) ↔
        IsCandidateIn [(name, e)] (name :: below) := by
      intro below
      unfold IsCandidateIn
      rw [findIn?, findIn?, child?_cons_self, child?_cons_self]
    constructor
    · rintro (⟨below, rfl, hc⟩ | ⟨below, rfl, hc⟩)
      · exact ⟨name :: below, rfl, (hfirst below).2 hc⟩
      · cases below with
        | nil => exact absurd hc (not_isCandidateIn_nil rest)
        | cons n below =>
          have hn : n ≠ name := ne_of_isCandidateIn hrest hne hc
          exact ⟨n :: below, rfl, (isCandidateIn_cons_of_ne hn e rest below).2 hc⟩
    · rintro ⟨below, rfl, hc⟩
      cases below with
      | nil => exact absurd hc (not_isCandidateIn_nil _)
      | cons n below =>
        by_cases hn : n = name
        · subst hn
          exact .inl ⟨below, rfl, (hfirst below).1 hc⟩
        · exact .inr ⟨n :: below, rfl, (isCandidateIn_cons_of_ne hn e rest below).1 hc⟩

end

mutual

/-- No path comes twice from an entry. -/
private theorem nodup_entryCandidates : ∀ (e : Entry), e.WellFormed → ∀ (path : Path)
    (name : String),
    (e.candidates path name).Nodup
  | .file _, _, path, name => by
    rw [Entry.candidates]
    split <;> simp
  | .link _, _, _, _ => List.nodup_nil
  | .dir inner, hw, path, name => by
    rw [Entry.candidates]
    -- a directory that is left out has no candidates, and no others have those of its entries
    -- twice
    split
    · exact List.nodup_nil
    · exact nodup_candidatesIn inner hw (path ++ [name])

/-- The walk finds nothing twice. -/
theorem nodup_candidatesIn : ∀ (entries : List (String × Entry)), WellFormedIn entries →
    ∀ (path : Path), (candidatesIn path entries).Nodup
  | [], _, _ => List.nodup_nil
  | (name, e) :: rest, ⟨hname, hne, he, hrest⟩, path => by
    rw [candidatesIn, List.nodup_append]
    refine ⟨nodup_entryCandidates e he path name, nodup_candidatesIn rest hrest path, ?_⟩
    -- a path found at the first entry goes on with its name, one found later with another name
    intro q hq q' hq' heq
    obtain ⟨below, rfl, _⟩ := (mem_entryCandidates e he path name q).1 hq
    obtain ⟨below', rfl, hc⟩ := (mem_candidatesIn rest hrest path q').1 hq'
    obtain rfl := List.append_cancel_left heq
    exact ne_of_isCandidateIn hrest hne hc rfl

end

/-! ## Candidates by what the tree has -/

/-- A name stands above the end of a path if something comes after it. -/
private theorem mem_dropLast_iff {name : String} {below : Path} :
    name ∈ below.dropLast ↔ ∃ above rest, below = above ++ name :: rest ∧ rest ≠ [] := by
  constructor
  · -- what comes after the name is not empty, as the last name of all comes after it
    intro h
    obtain ⟨above, rest, hsplit⟩ := List.append_of_mem h
    have hne : below ≠ [] := by
      rintro rfl
      exact List.not_mem_nil h
    refine ⟨above, rest ++ [below.getLast hne], ?_, by simp⟩
    rw [← List.cons_append, ← List.append_assoc, ← hsplit, List.dropLast_concat_getLast]
  · rintro ⟨above, rest, rfl, hrest⟩
    rw [List.dropLast_append_of_ne_nil (List.cons_ne_nil name rest),
      List.dropLast_cons_of_ne_nil hrest]
    exact List.mem_append_right _ (List.mem_cons_self ..)

/-- What the candidates below a directory are is decided by its entries. -/
private theorem hasCandidate_iff {t : FileTree} {directory : Path} {entries : List (String × Entry)}
    (h : t.find? directory = some (.dir entries)) (below : Path) :
    t.HasCandidate directory below ↔ IsCandidateIn entries below := by
  -- the names before the last are those of the directories on the way
  constructor
  · rintro ⟨_, ⟨content, hfile⟩, hway, hincluded⟩
    refine ⟨⟨content, find?_append h below ▸ hfile⟩, ?_, hincluded⟩
    intro name hname
    obtain ⟨above, rest, hsplit, hrest⟩ := mem_dropLast_iff.1 hname
    exact (hway above name rest hsplit hrest).2
  · rintro ⟨⟨content, hfile⟩, hnames, hincluded⟩
    refine ⟨?_, ⟨content, by rw [find?_append h, hfile]⟩, ?_, hincluded⟩
    · rintro rfl
      simp [findIn?] at hfile
    · intro above name rest hsplit hrest
      rw [hsplit, ← List.singleton_append, ← List.append_assoc] at hfile
      -- the file lies below this name, so the name stands for a directory
      obtain ⟨inner, hinner⟩ := findIn?_dir_of_append hfile hrest
      refine ⟨⟨inner, ?_⟩, hnames name (mem_dropLast_iff.2 ⟨above, rest, hsplit, hrest⟩)⟩
      rw [List.append_assoc, find?_append h, hinner]

/-- A tree that has files and directories below a directory wherever another has them has its
candidates. -/
theorem HasCandidate.mono {t t' : FileTree} {directory below : Path}
    (hfiles : ∀ p, (∃ content, t.find? (directory ++ p) = some (.file content)) →
      ∃ content, t'.find? (directory ++ p) = some (.file content))
    (hdirs : ∀ p, (∃ entries, t.find? (directory ++ p) = some (.dir entries)) →
      ∃ entries, t'.find? (directory ++ p) = some (.dir entries))
    (h : t.HasCandidate directory below) : t'.HasCandidate directory below := by
  obtain ⟨hne, hfile, hway, hincluded⟩ := h
  refine ⟨hne, hfiles _ hfile, ?_, hincluded⟩
  -- what is on the way is a directory in the other tree, too
  intro above name rest hsplit hrest
  obtain ⟨hdir, hname⟩ := hway above name rest hsplit hrest
  rw [List.append_assoc] at hdir ⊢
  exact ⟨hdirs _ hdir, hname⟩

/-- Which files are candidates does not depend on the order of entries. -/
private theorem hasCandidate_reordered {t t' : FileTree} (hw : t.WellFormed) (h : t.Reordered t')
    (directory below : Path) :
    t'.HasCandidate directory below ↔ t.HasCandidate directory below := by
  -- a file stays the same, and a directory stays one
  have hfiles := fun p content =>
    find?_iff_of_reordered hw h p (e := .file content) (fun _ => Entry.noConfusion)
  have hdirs := find?_dir_iff_of_reordered hw h
  constructor
  · exact .mono (fun _ => .imp fun content => (hfiles _ content).1) (fun _ => (hdirs _).1)
  · exact .mono (fun _ => .imp fun content => (hfiles _ content).2) (fun _ => (hdirs _).2)

/-! ## The sorted list -/

/-- The order that candidates are sorted by is the lexicographic one of their names. -/
theorem le_iff_not_lt (p q : Path) : Path.le p q = true ↔ ¬ q < p := by
  simp [Path.le]

/-- The order that candidates are sorted by is transitive. -/
theorem le_trans {p q r : Path} (hpq : Path.le p q = true) (hqr : Path.le q r = true) :
    Path.le p r = true := by
  rw [le_iff_not_lt, List.not_lt] at hpq hqr ⊢
  exact List.le_trans hpq hqr

/-- Any two paths can be sorted. -/
private theorem le_total (p q : Path) : Path.le p q = true ∨ Path.le q p = true := by
  rw [le_iff_not_lt, le_iff_not_lt, List.not_lt, List.not_lt]
  exact List.le_total p q

/-- Of two different paths one comes first. -/
private theorem lt_of_not_lt_of_ne {p q : Path} (h : ¬ q < p) (hne : p ≠ q) : p < q :=
  (List.le_iff_lt_or_eq.1 (List.not_lt.1 h)).resolve_right hne

/-- The candidates are sorted. -/
private theorem pairwise_le_candidates (t : FileTree) (root : Path) :
    (t.candidates root).Pairwise fun p q => ¬ q < p := by
  unfold candidates
  split
  · split <;> simp
  · next entries _ =>
    -- the sorting is by an order that is total and transitive
    have htrans : ∀ p q r : Path, Path.le p q → Path.le q r → Path.le p r :=
      fun _ _ _ hpq hqr => le_trans hpq hqr
    have htotal : ∀ p q : Path, Path.le p q || Path.le q p :=
      fun p q => Bool.or_eq_true_iff.2 (le_total p q)
    exact (List.pairwise_mergeSort htrans htotal _).imp fun h => (le_iff_not_lt _ _).1 h
  · exact List.Pairwise.nil

/-- The members of the list of a directory. -/
theorem mem_candidates_iff {t : FileTree} (hw : t.WellFormed) {root real : Path}
    {entries : List (String × Entry)} (h : t.locate root = .ok (real, .dir entries)) (q : Path) :
    q ∈ t.candidates root ↔ ∃ below, q = root ++ below ∧ t.HasCandidate real below := by
  have hfound := find?_of_locate h
  have hentries : WellFormedIn entries := (wellFormed_of_findIn? hw hfound).1
  unfold candidates
  simp only [h, List.mem_mergeSort, mem_candidatesIn entries hentries, hasCandidate_iff hfound]

/-- No candidate comes twice. -/
private theorem nodup_candidates {t : FileTree} (hw : t.WellFormed) {root real : Path}
    {entries : List (String × Entry)} (h : t.locate root = .ok (real, .dir entries)) :
    (t.candidates root).Nodup := by
  have hentries : WellFormedIn entries := (wellFormed_of_findIn? hw (find?_of_locate h)).1
  unfold candidates
  -- sorting only moves what the walk has found
  simp only [h]
  exact (List.mergeSort_perm _ _).nodup_iff.2 (nodup_candidatesIn entries hentries root)

/-- The candidates are in strictly ascending order. -/
theorem pairwise_lt_candidates {t : FileTree} (hw : t.WellFormed) {root real : Path}
    {entries : List (String × Entry)} (h : t.locate root = .ok (real, .dir entries)) :
    (t.candidates root).Pairwise (· < ·) :=
  ((pairwise_le_candidates t root).and (nodup_candidates hw h)).imp
    fun ⟨hle, hne⟩ => lt_of_not_lt_of_ne hle hne

/-- The list of a directory depends on its candidates alone. -/
theorem candidates_eq_of_hasCandidate {t t' : FileTree} (hw : t.WellFormed) (hw' : t'.WellFormed)
    {root real : Path} {entries entries' : List (String × Entry)}
    (hroot : t.locate root = .ok (real, .dir entries))
    (hroot' : t'.locate root = .ok (real, .dir entries'))
    (h : ∀ below, t'.HasCandidate real below ↔ t.HasCandidate real below) :
    t'.candidates root = t.candidates root := by
  -- two ascending lists with the same members are the same
  apply List.Pairwise.eq_of_mem_iff (pairwise_lt_candidates hw' hroot')
    (pairwise_lt_candidates hw hroot)
  intro q
  simp only [mem_candidates_iff hw' hroot', mem_candidates_iff hw hroot, h]

/-- How the entries of directories are ordered makes no difference to the candidates. -/
private theorem candidates_reordered {t t' : FileTree} (hw : t.WellFormed) (h : t.Reordered t')
    {root real : Path} {entries : List (String × Entry)}
    (hroot : t.locate root = .ok (real, .dir entries)) :
    t'.candidates root = t.candidates root := by
  have hw' : t'.WellFormed := wellFormed_reordered (.dir t.entries) hw h
  have hloc := locate_reordered hw h root
  rw [hroot] at hloc
  generalize hroot' : t'.locate root = outcome' at hloc
  -- the directory is found in the other tree, with the same entries in some order
  cases hloc with
  | found he =>
    obtain ⟨_, entries', _, _, rfl⟩ := he
    exact candidates_eq_of_hasCandidate hw hw' hroot hroot' (hasCandidate_reordered hw h real)

/-! ## Main result -/

/-- For a root that resolves to a directory, the list holds the candidates below it and nothing
else, each once, by ascending names along their paths. It is the same however directories list
their entries. -/
theorem candidates_of_directory {t : FileTree} (hw : t.WellFormed) {cwd root : Path} {text : String}
    (hroot : t.resolve cwd text = .ok root) (hdir : t.isDir root = true) :
    (∀ q, q ∈ t.candidates root ↔
      ∃ below, q = root ++ below ∧ t.HasCandidate (t.realPath root) below) ∧
    (t.candidates root).Nodup ∧
    (t.candidates root).Pairwise (· < ·) ∧
    ∀ t', t.Reordered t' →
      t'.resolve cwd text = .ok root ∧ t'.candidates root = t.candidates root := by
  -- the list is that of the directory that the root leads to
  obtain ⟨real, entries, hloc⟩ : ∃ real entries, t.locate root = .ok (real, .dir entries) := by
    unfold isDir at hdir
    split at hdir
    · next real entries hloc => exact ⟨real, entries, hloc⟩
    · exact nomatch hdir
  have hreal : t.realPath root = real := by simp only [realPath, hloc]
  rw [hreal]
  refine ⟨mem_candidates_iff hw hloc, nodup_candidates hw hloc, pairwise_lt_candidates hw hloc, ?_⟩
  intro t' ht'
  exact ⟨resolve_reordered hw ht' cwd text ▸ hroot, candidates_reordered hw ht' hloc⟩

/-- A directory behind a link, with a directory that is left out and a link that leads back. -/
def linkedTree : FileTree where
  entries := [("s", .link "w"), ("w", .dir [
    ("b.py", .file ⟨#[]⟩),
    ("a", .dir [("x.bin", .file ⟨#[]⟩), ("c.md", .file ⟨#[]⟩)]),
    ("dist", .dir [("d.js", .file ⟨#[]⟩)]),
    ("back.py", .link "../s")])]

/-- A root that is reached by a link, with a file to scan and one below a skipped directory. -/
theorem candidates_of_directory_linkedTree :
    linkedTree.WellFormed ∧ linkedTree.resolve [] "s" = .ok ["w"] ∧
      linkedTree.isDir ["w"] = true ∧ (linkedTree.candidates ["w"]).Pairwise (· < ·) ∧
      ["w", "a", "c.md"] ∈ linkedTree.candidates ["w"] ∧
      ["w", "dist", "d.js"] ∉ linkedTree.candidates ["w"] := by
  have hw : linkedTree.WellFormed := by
    simp [linkedTree, FileTree.WellFormed, WellFormedIn, Entry.WellFormed, IsName]
  have hroot : linkedTree.resolve [] "s" = .ok ["w"] := by cbv
  have hdir : linkedTree.isDir ["w"] = true := by cbv
  have hreal : linkedTree.realPath ["w"] = ["w"] := by cbv
  -- everything but the members is read off the tree
  obtain ⟨entries, hentries⟩ : ∃ entries, linkedTree.find? ["w"] = some (.dir entries) := ⟨_, rfl⟩
  obtain ⟨hmem, _, hsorted, _⟩ := candidates_of_directory hw hroot hdir
  rw [hreal] at hmem
  refine ⟨hw, hroot, hdir, hsorted, (hmem _).2 ⟨["a", "c.md"], rfl, ?_⟩, ?_⟩
  · obtain rfl := Entry.dir.inj (Option.some.inj hentries)
    exact (hasCandidate_iff hentries _).2 ⟨⟨_, rfl⟩, by decide, by decide⟩
  · -- what is below a skipped directory cannot be a candidate
    intro h
    obtain ⟨below, hbelow, hc⟩ := (hmem _).1 h
    obtain rfl : ["dist", "d.js"] = below := (List.cons.inj hbelow).2
    exact (hc.through [] "dist" ["d.js"] rfl (by simp)).2 (by decide)

end FileTree

end SecretScan
