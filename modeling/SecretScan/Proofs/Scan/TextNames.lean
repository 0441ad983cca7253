import SecretScan.Proofs.Scan.Findings
import SecretScan.Proofs.Text.LetterCase
import SecretScan.Proofs.Text.Lines

/-!
# Names of text files

Names are looked at twice: a file is a candidate if its name is included, where case counts, and it
is opened if its name looks like that of a text file, where case does not count. The two agree but
for names such as `.json`: a known extension ends them, but it is no extension, as nothing stands
before it.

## Key results

- `suffixOf_lowered`: the extension of a name does not depend on case
- `exists_suffixOf_eq_iff`: which included names have a known extension
- `looksLikeText_iff_isIncludedName`: which names look like text, and which candidates are dropped
-/

namespace SecretScan

open Text

/-! ## Texts of paths -/

/-- A path of proper names is read back from its text. -/
private theorem Path.names_text {p : Path} (h : ∀ n ∈ p, IsName n) : names p.text = p := by
  cases p with
  | nil => decide
  | cons name rest =>
    -- no name holds a slash, so the text is cut into the names again
    have hslash : ∀ piece ∈ [] :: (name :: rest).map String.toList, '/' ∉ piece := by
      simpa using fun n hn => (h n (List.mem_cons.2 hn)).2.2.2
    have hcut := cutAt_intercalate (List.cons_ne_nil _ _) hslash
    have htext : (text (name :: rest)).toList =
        ['/'].intercalate ([] :: (name :: rest).map String.toList) := by
      simp [text]
    -- nor is a name dropped, as it is neither empty nor a dot
    have hkept : ∀ n ∈ name :: rest, (n != "" && n != ".") = true := by
      intro n hn
      obtain ⟨hempty, hdot, _⟩ := h n hn
      simp [hempty, hdot]
    unfold names
    rw [htext, hcut, List.map_cons, List.map_map, List.filter_cons_of_neg (by decide)]
    simpa [Function.comp_def] using hkept

/-- A name is a path of one name. -/
private theorem Path.names_of_isName {name : String} (h : IsName name) : names name = [name] := by
  obtain ⟨hempty, hdot, _, hslash⟩ := h
  simp [names, cutAt_of_not_mem hslash, hempty, hdot]

/-! ## Extensions -/

/-- Without a dot there is no suffix. -/
theorem suffixOf_of_not_mem {name : List Char} (h : '.' ∉ name) : suffixOf name = [] := by
  -- without a dot the whole name is what follows the last one
  have htail : name.reverse.takeWhile (· != '.') = name.reverse := by
    rw [List.takeWhile_eq_self_iff]
    intro c hc
    have hne : c ≠ '.' := by
      rintro rfl
      exact h (List.mem_reverse.1 hc)
    simpa using hne
  simp [suffixOf, htail]

/-- The last dot starts the extension, unless nothing is before or behind it. -/
theorem suffixOf_append {stem tail : List Char} (h : '.' ∉ tail) :
    suffixOf (stem ++ '.' :: tail) = if tail = [] ∨ stem = [] then [] else '.' :: tail := by
  -- what comes after the last dot
  have htail : (stem ++ '.' :: tail).reverse.takeWhile (· != '.') = tail.reverse := by
    have hne : ∀ c ∈ tail.reverse, (c != '.') = true := by
      intro c hc
      have hne : c ≠ '.' := by
        rintro rfl
        exact h (List.mem_reverse.1 hc)
      simpa using hne
    have hrev : (stem ++ '.' :: tail).reverse = tail.reverse ++ '.' :: stem.reverse := by simp
    rw [hrev, List.takeWhile_append_of_pos hne, List.takeWhile_cons_of_neg (by decide),
      List.append_nil]
  have hlength : (stem ++ '.' :: tail).length - tail.length ≤ 1 ↔ stem = [] := by
    rw [← List.length_eq_zero_iff, List.length_append, List.length_cons]
    omega
  unfold suffixOf
  simp only [htail, List.reverse_reverse, Bool.or_eq_true, List.isEmpty_iff, decide_eq_true_eq,
    hlength]

/-- A name has no dot, or a last one. -/
private theorem exists_lastDot {name : List Char} (h : '.' ∈ name) :
    ∃ stem tail, name = stem ++ '.' :: tail ∧ '.' ∉ tail := by
  obtain ⟨before, after, hsplit, hbefore⟩ := List.eq_append_cons_of_mem (List.mem_reverse.2 h)
  refine ⟨after.reverse, before.reverse, ?_, by simpa using hbefore⟩
  rw [← List.reverse_reverse name, hsplit]
  simp

/-- The extension of a name in lower case is that of the name. -/
theorem suffixOf_lowered (name : List Char) :
    suffixOf (lowered name) = lowered (suffixOf name) := by
  have hlower : lower '.' = ['.'] := by decide
  have hdot : IsCaseless '.'.toNat := by decide +kernel
  have hmem : ∀ cs, '.' ∈ lowered cs ↔ '.' ∈ cs := fun cs => mem_lowered_iff hdot (by decide)
  -- the dot is its own lower case, and no other character becomes one
  by_cases h : '.' ∈ name
  · obtain ⟨stem, tail, rfl, htail⟩ := exists_lastDot h
    have hlow : lowered (stem ++ '.' :: tail) = lowered stem ++ '.' :: lowered tail := by
      rw [lowered_append, lowered_cons, hlower, List.singleton_append]
    rw [hlow, suffixOf_append (mt (hmem tail).1 htail), suffixOf_append htail]
    simp only [lowered_eq_nil_iff]
    split
    · rfl
    · rfl
  · rw [suffixOf_of_not_mem h, suffixOf_of_not_mem (mt (hmem name).1 h)]
    rfl

/-- Is a name nothing but a known extension that does not name an environment file? -/
def IsBareExtension (name : String) : Prop :=
  name ∈ textExtensions ∧ name ≠ ".env"

instance (name : String) : Decidable (IsBareExtension name) := by
  unfold IsBareExtension
  infer_instance

/-- A known extension is a dot and something without dots, in lower case. -/
theorem extension_cases {e : String} (h : e ∈ textExtensions) :
    ∃ tail, e.toList = '.' :: tail ∧ '.' ∉ tail ∧ tail ≠ [] ∧ lowered e.toList = e.toList := by
  have hall : ∀ e ∈ textExtensions, e.toList = '.' :: e.toList.tail ∧ '.' ∉ e.toList.tail ∧
      e.toList.tail ≠ [] ∧ lowered e.toList = e.toList := by decide
  exact ⟨e.toList.tail, hall e h⟩

/-- A name has a known extension if it is one with something before it. -/
private theorem suffixOf_eq_extension_iff {name : List Char} {e : String}
    (he : e ∈ textExtensions) :
    suffixOf name = e.toList ↔ ∃ stem, stem ≠ [] ∧ name = stem ++ e.toList := by
  obtain ⟨tail, htail, hdot, hne, _⟩ := extension_cases he
  rw [htail]
  constructor
  · -- a suffix is what comes after the last dot, with the dot
    intro h
    by_cases hmem : '.' ∈ name
    · obtain ⟨stem, tail', rfl, hdot'⟩ := exists_lastDot hmem
      rw [suffixOf_append hdot'] at h
      split at h
      · cases h
      · next hparts =>
        obtain ⟨_, hstem⟩ := not_or.1 hparts
        exact ⟨stem, hstem, by rw [h]⟩
    · rw [suffixOf_of_not_mem hmem] at h
      cases h
  · rintro ⟨stem, hstem, rfl⟩
    rw [suffixOf_append hdot, if_neg (not_or.2 ⟨hne, hstem⟩)]
-- the extensions are what can be looked up in the list

/-- A known extension that ends another one is the same. -/
private theorem eq_of_extension_suffix {e e' : String} (he : e ∈ textExtensions)
    (he' : e' ∈ textExtensions)
    {stem : List Char} (h : e'.toList = stem ++ e.toList) : e' = e := by
  obtain ⟨tail, htail, _⟩ := extension_cases he
  obtain ⟨tail', htail', hdot', _⟩ := extension_cases he'
  cases stem with
  | nil => exact String.toList_inj.1 h
  | cons c stem =>
    -- the dot of the one would not be the first character of the other
    rw [htail, htail', List.cons_append] at h
    obtain ⟨_, rfl⟩ := List.cons.inj h
    exact absurd (List.mem_append_right _ List.mem_cons_self) hdot'

/-! ## Included names -/

/-- The names of files of environment variables. -/
theorem isDotenvName_iff {name : List Char} :
    isDotenvName name = true ↔ name = ".env".toList ∨ ".env.".toList <+: name := by
  simp [isDotenvName]

/-- Lower case keeps the names of files of environment variables. -/
private theorem isDotenvName_lowered {name : List Char} (h : isDotenvName name = true) :
    isDotenvName (lowered name) = true := by
  have henv : lowered ".env".toList = ".env".toList := by decide
  have hstart : lowered ".env.".toList = ".env.".toList := by decide
  rw [isDotenvName_iff] at h ⊢
  obtain rfl | ⟨rest, rfl⟩ := h
  · exact .inl henv
  · exact .inr ⟨lowered rest, by rw [lowered_append, hstart]⟩

/-- No name of a file of environment variables is an extension alone. -/
private theorem not_isBareExtension_of_isDotenvName {name : String}
    (h : isDotenvName name.toList = true) : ¬ IsBareExtension name := by
  rintro ⟨hname, hne⟩
  obtain henv | henv := isDotenvName_iff.1 h
  · exact hne (String.toList_inj.1 henv)
  · have hnone : ∀ e ∈ textExtensions, ¬ ".env.".toList <+: e.toList := by decide
    exact hnone name hname henv

/-- The names of candidates are those with an extension of text files at their end, and those of
environment files: the two lists agree. -/
private theorem perm_candidateNames :
    candidateNames.Perm (textExtensions.map .ending ++ [.exactly ".env", .starting ".env."]) := by
  decide

/-- A name is included for its extension, or as that of a file of environment variables. -/
theorem isIncludedName_iff {name : String} : isIncludedName name = true ↔
    (∃ e ∈ textExtensions, e.toList <:+ name.toList) ∨ isDotenvName name.toList = true := by
  -- the patterns in any order are the endings and the two for dotenv files
  have hany : isIncludedName name =
      (textExtensions.map NamePattern.ending ++ [NamePattern.exactly ".env", .starting ".env."]).any
        (·.admits name.toList) :=
    perm_candidateNames.any_eq
  rw [hany, isDotenvName_iff, List.any_append, Bool.or_eq_true, List.any_map, List.any_eq_true]
  simp only [Function.comp_apply, NamePattern.admits, List.isSuffixOf_iff_suffix, List.any_cons,
    List.any_nil, Bool.or_false, Bool.or_eq_true, beq_iff_eq, List.isPrefixOf_iff_prefix,
    eq_comm (a := name.toList)]

/-- The included names that have no known extension and name no environment file are those that are
nothing but an extension. -/
theorem exists_suffixOf_eq_iff {name : String} :
    (∃ e ∈ textExtensions, suffixOf name.toList = e.toList) ∨ isDotenvName name.toList = true ↔
      isIncludedName name = true ∧ ¬ IsBareExtension name := by
  rw [isIncludedName_iff]
  by_cases hdotenv : isDotenvName name.toList = true
  · simp only [hdotenv, or_true, not_isBareExtension_of_isDotenvName hdotenv, not_false_eq_true,
      and_true]
  · rw [or_iff_left hdotenv, or_iff_left hdotenv]
    constructor
    · rintro ⟨e, he, hsuffix⟩
      obtain ⟨stem, hstem, hsplit⟩ := (suffixOf_eq_extension_iff he).1 hsuffix
      refine ⟨⟨e, he, stem, hsplit.symm⟩, ?_⟩
      rintro ⟨hname, _⟩
      -- a name that ends in an extension and is one has nothing before it
      obtain rfl := eq_of_extension_suffix he hname hsplit
      exact hstem (List.append_left_eq_self.1 hsplit.symm)
    · rintro ⟨⟨e, he, stem, hsplit⟩, hbare⟩
      refine ⟨e, he, (suffixOf_eq_extension_iff he).2 ⟨stem, ?_, hsplit.symm⟩⟩
      rintro rfl
      obtain rfl : e = name := String.toList_inj.1 hsplit
      obtain rfl : e = ".env" := not_not.1 fun hne => hbare ⟨he, hne⟩
      exact hdotenv (by decide)

/-! ## Lower case -/

/-- A name in lower case. -/
def loweredName (name : String) : String :=
  String.ofList (lowered name.toList)

/-- A name in lower case, letter by letter. -/
theorem toList_loweredName (name : String) : (loweredName name).toList = lowered name.toList :=
  String.toList_ofList

/-- A name that is included looks like text, unless it is nothing but an extension; only the last
name of a path counts, and case does not. -/
private theorem looksLikeText_iff {path name : String}
    (h : (Path.names path).getLast? = some name) :
    looksLikeText path = true ↔
      isIncludedName (loweredName name) = true ∧ ¬ IsBareExtension (loweredName name) := by
  -- the suffixes are the extensions as texts
  have hknown : ∀ cs : List Char, textExtensions.contains (String.ofList cs) = true ↔
      ∃ e ∈ textExtensions, cs = e.toList := by
    intro cs
    rw [List.contains_iff_mem]
    constructor
    · intro hmem
      exact ⟨_, hmem, String.toList_ofList.symm⟩
    · rintro ⟨e, he, rfl⟩
      rwa [String.ofList_toList]
  unfold looksLikeText
  rw [h]
  simp only [Option.getD_some, ← suffixOf_lowered, Bool.or_eq_true, hknown]
  rw [← toList_loweredName]
  exact exists_suffixOf_eq_iff

/-- Lower case keeps the names that are included. -/
private theorem isIncludedName_loweredName {name : String} (h : isIncludedName name = true) :
    isIncludedName (loweredName name) = true := by
  rw [isIncludedName_iff] at h ⊢
  rw [toList_loweredName]
  obtain ⟨e, he, stem, hsplit⟩ | hdotenv := h
  · obtain ⟨_, _, _, _, hlow⟩ := extension_cases he
    exact .inl ⟨e, he, lowered stem, by rw [← hsplit, lowered_append, hlow]⟩
  · exact .inr (isDotenvName_lowered hdotenv)

/-- Where a name is included, it is nothing but an extension if it is so in lower case. -/
private theorem isBareExtension_loweredName_iff {name : String} (h : isIncludedName name = true) :
    IsBareExtension (loweredName name) ↔ IsBareExtension name := by
  constructor
  · intro hbare
    obtain ⟨e, he, stem, hsplit⟩ | hdotenv := isIncludedName_iff.1 h
    · obtain ⟨_, _, _, _, hlow⟩ := extension_cases he
      have hlowered : (loweredName name).toList = lowered stem ++ e.toList := by
        rw [toList_loweredName, ← hsplit, lowered_append, hlow]
      have heq : loweredName name = e := eq_of_extension_suffix he hbare.1 hlowered
      rw [heq] at hlowered hbare
      -- nothing is left for what stands before the extension
      obtain rfl := lowered_eq_nil_iff.1 (List.append_left_eq_self.1 hlowered.symm)
      obtain rfl : e = name := String.toList_inj.1 hsplit
      exact hbare
    · have hlowered : isDotenvName (loweredName name).toList = true := by
        rw [toList_loweredName]
        exact isDotenvName_lowered hdotenv
      exact absurd hbare (not_isBareExtension_of_isDotenvName hlowered)
  · intro hbare
    obtain ⟨_, _, _, _, hlow⟩ := extension_cases hbare.1
    rwa [loweredName, hlow, String.ofList_toList]

/-! ## Candidates -/

namespace FileTree

/-- Every candidate has a name that is included. -/
private theorem isIncludedName_of_mem_candidates {t : FileTree} (hw : t.WellFormed) {root q : Path}
    (hq : q ∈ t.candidates root) : isIncludedName q.fileName = true := by
  -- the root may be a file or a directory; nothing else has candidates
  cases hroot : t.locate root with
  | error e => simp [candidates, hroot] at hq
  | ok found =>
    obtain ⟨real, e⟩ := found
    cases e with
    | file content =>
      have hmem : isIncludedName root.fileName = true ∧ q = root := by
        simpa [candidates, hroot] using hq
      exact hmem.2 ▸ hmem.1
    | link target => simp [candidates, hroot] at hq
    | dir entries =>
      obtain ⟨below, rfl, hc⟩ := (mem_candidates_iff hw hroot q).1 hq
      have hname : Path.fileName (root ++ below) = Path.fileName below := by
        rw [Path.fileName, Path.fileName, List.getLast?_append_of_ne_nil _ hc.below_ne_nil]
      rw [hname]
      exact hc.isIncluded

/-- A path whose last name is included has a last name. -/
private theorem getLast?_of_isIncludedName {q : Path} (h : isIncludedName q.fileName = true) :
    q.getLast? = some q.fileName := by
  unfold Path.fileName at h ⊢
  cases hlast : q.getLast? with
  | some name => rfl
  | none =>
    rw [hlast] at h
    exact absurd h (by decide)

end FileTree

/-! ## Main result -/

namespace Scan

/-- What comes of a file that is opened. -/
def openedOutcome (disk : Disk) (options : ScanOptions) (path : Path) (content : ByteArray) :
    Outcome :=
  match disk.faults.lookup path with
  | some .denied => .unreadable (IoError.permissionDenied.message path.text)
  | some (.failure reason) => .failed reason
  | none =>
    if isBinary content.data.toList then .scanned []
    else .scanned (findingsOf options path.text content.data.toList)

/-- A file is dropped before it is opened, for its name or for its size. -/
private theorem scanFile_of_content {disk : Disk} {path : Path} {content : ByteArray}
    (hfile : disk.tree.locate path = .ok (path, .file content)) (options : ScanOptions) :
    scanFile disk options path =
      if looksLikeText path.text = false ∨ options.maxFileSize < content.size then .scanned []
      else openedOutcome disk options path content := by
  -- a file is not read for its name or for its size
  have hdropped : isTextCandidate path.text content.size options.maxFileSize = false ↔
      looksLikeText path.text = false ∨ options.maxFileSize < content.size := by
    rw [isTextCandidate, Bool.and_eq_false_iff, decide_eq_false_iff_not, not_le]
  unfold scanFile openedOutcome
  simp only [hfile]
  cases hcandidate : isTextCandidate path.text content.size options.maxFileSize with
  | false => rw [if_pos (hdropped.1 hcandidate), if_pos (by rfl)]
  | true =>
    have hopened := mt hdropped.2 (by simp [hcandidate])
    rw [if_neg hopened]
    exact if_neg (by decide)

/-- A name looks like text exactly if it is included in lower case and is not, in lower case, a bare
extension. So of the candidates of a scan those are dropped for their names, whatever their sizes,
contents and faults, that have nothing but an extension for a name. -/
theorem looksLikeText_iff_isIncludedName :
    (∀ name, IsName name →
      (looksLikeText name = true ↔
        isIncludedName (loweredName name) = true ∧ ¬ IsBareExtension (loweredName name))) ∧
    ∀ disk : Disk, disk.tree.WellFormed → ∀ root : Path,
      ∀ q ∈ disk.tree.candidates (disk.tree.realPath root),
        (looksLikeText q.text = false ↔ IsBareExtension q.fileName) ∧
        ∃ content, disk.tree.locate q = .ok (q, .file content) ∧
          ∀ options, scanFile disk options q =
            if IsBareExtension q.fileName ∨ options.maxFileSize < content.size then .scanned []
            else openedOutcome disk options q content := by
  constructor
  · intro name hname
    exact looksLikeText_iff (by rw [Path.names_of_isName hname, List.getLast?_singleton])
  · intro disk hw root q hq
    obtain ⟨content, hfile⟩ := FileTree.exists_content_of_mem_candidates hw hq
    -- a candidate is named in the tree, so its path can be taken apart again
    have hnames := (FileTree.wellFormed_of_findIn? hw (FileTree.find?_of_locate hfile)).2
    have hincluded := FileTree.isIncludedName_of_mem_candidates hw hq
    have hlast : (Path.names q.text).getLast? = some q.fileName := by
      rw [Path.names_text hnames]
      exact FileTree.getLast?_of_isIncludedName hincluded
    have hdropped : looksLikeText q.text = false ↔ IsBareExtension q.fileName := by
      rw [← Bool.not_eq_true, looksLikeText_iff hlast, isBareExtension_loweredName_iff hincluded]
      simp [isIncludedName_loweredName hincluded]
    refine ⟨hdropped, content, hfile, fun options => ?_⟩
    rw [scanFile_of_content hfile]
    simp only [hdropped]

/-- A directory with two files whose names are nothing but extensions. -/
def dotfilesDisk : Disk where
  tree := { entries := [(".env", .file ⟨#[]⟩), (".json", .file ⟨#[]⟩)] }

/-- A sign that is a letter in lower case only, and files that are extensions alone. -/
theorem looksLikeText_iff_isIncludedName_dotfiles :
    IsName "Notes.\u212at" ∧ looksLikeText "Notes.\u212at" = true ∧
      dotfilesDisk.tree.WellFormed ∧
      [".env"] ∈ dotfilesDisk.tree.candidates (dotfilesDisk.tree.realPath []) ∧
      [".json"] ∈ dotfilesDisk.tree.candidates (dotfilesDisk.tree.realPath []) ∧
      looksLikeText "/.env" = true ∧ looksLikeText "/.json" = false := by
  have hname : IsName "Notes.\u212at" := by
    simp [IsName]
  have hlow : loweredName "Notes.\u212at" = "notes.kt" := by decide +kernel
  have hw : dotfilesDisk.tree.WellFormed := by
    simp [dotfilesDisk, FileTree.WellFormed, WellFormedIn, Entry.WellFormed, IsName]
  -- both files are candidates, as their names are included
  have hfiles : dotfilesDisk.tree.candidates (dotfilesDisk.tree.realPath []) =
      [[".env"], [".json"]] := by cbv
  have henv := hfiles ▸ List.mem_cons_self
  have hjson := hfiles ▸ List.mem_cons_of_mem [".env"] List.mem_cons_self
  obtain ⟨hnames, hcandidates⟩ := looksLikeText_iff_isIncludedName
  refine ⟨hname, (hnames _ hname).2 ?_, hw, henv, hjson, ?_, ?_⟩
  · rw [hlow]
    decide
  · have hkept := (hcandidates dotfilesDisk hw [] [".env"] henv).1
    exact eq_true_of_ne_false (mt hkept.1 (by decide))
  · exact (hcandidates dotfilesDisk hw [] [".json"] hjson).1.2 (by decide)

end Scan

end SecretScan
