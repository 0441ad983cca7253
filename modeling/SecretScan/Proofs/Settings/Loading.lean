import Mathlib
import SecretScan.Proofs.Settings.Entries
import SecretScan.Proofs.Settings.Locating

/-!
# Which settings are loaded

The settings of a scan are read from one file at most: the one that is named, or else the first that
exists of two names in the directory of the scan. What the value of that file must be, and what the
settings say then, is told by `IsWellFormed` and `Says`, without going through the checks. How files
are found and what is in them is up to the `Host`.

## Key results

- `unknownKeys_eq_nil_iff`: which values have no unknown key
- `IsWellFormed.exists_ofValue`: a well-formed value is read as what it says
- `exists_refusal_of_not_isWellFormed`: any other is refused
- `load_outcome`: what comes of loading settings
-/

namespace SecretScan

/-- Texts are the same value if they are equal. -/
@[simp] theorem Value.text_same_text (s s' : Text.Wide) :
    (Value.text s).same (.text s') = (s == s') := rfl

namespace Settings

variable {host : Host} {cwd path : Path} {named : Option String} {root file : String} {v : Value}

/-- Are the settings of a scan to be read from a file? It is the first that is sought and there. -/
def IsConsulted (host : Host) (cwd : Path) (named : Option String) (root : String)
    (path : Path) : Prop :=
  IsSought host cwd named root path ∧ host.exists? path = .ok true

/-! ## The value of a file -/

/-- Are all keys texts? -/
def HasTextKeys (v : Value) : Prop :=
  ∀ entry ∈ entriesOf v, ∃ key, entry.1 = .text key

/-- Is the value nothing or a mapping, are its keys known, and are its patterns a text or a list? -/
structure IsWellFormed (v : Value) : Prop where
  isMapping : IsMapping v
  knownKeys : ∀ entry ∈ entriesOf v, ∃ key ∈ knownKeys, entry.1 = .text (.wellFormed key)
  patterns : ∀ p, valueOf? "ignore_regex" (entriesOf v) = some p →
    (∃ s, p.inside = .text s) ∨ ∃ items, p.inside = .list items

/-- Is there a pattern that cannot be shown? -/
def HasUnshowablePattern (v : Value) : Prop :=
  ∃ p items, valueOf? "ignore_regex" (entriesOf v) = some p ∧ p.inside = .list items ∧
    ∃ item ∈ items, item.isShowable = false

/-- The patterns of an entry: a text is a single one, and each item of a list is one. -/
def patternTexts : Option Value → List Text.Wide
  | none => []
  | some p =>
    match p.inside with
    | .text s => [s]
    | .list items => items.map Value.asText
    | _ => []

/-- The value of a key in settings. -/
def value? (s : Settings) : String → Option Value
  | "severity" => s.severity
  | "entropy" => s.entropy
  | "max_findings" => s.maxFindings
  | "max_file_size" => s.maxFileSize
  | "ignore_file" => s.ignoreFile
  | "ignore_regex" => s.patterns.map fun patterns => .list (patterns.map .text)
  | _ => none

/-- The patterns of a value as a list of texts. -/
def patternList (v : Value) : Value :=
  .list ((patternTexts (valueOf? "ignore_regex" (entriesOf v))).map .text)

/-- Do settings say what a value does? The patterns are made a list of texts, and the value of any
other key stays what it is. A mapping that is part of itself holds that list within itself, too. -/
structure Says (v : Value) (s : Settings) : Prop where
  patterns_eq : s.value? "ignore_regex" = some (patternList v)
  value?_eq : ∀ key, key ≠ "ignore_regex" →
    s.value? key = valueOf? key (entriesOf (withEntry "ignore_regex" (patternList v) v))
  value?_of_apart : (∀ mark w, v ≠ .marked mark w) → ∀ key, key ≠ "ignore_regex" →
    s.value? key = valueOf? key (entriesOf v)

/-- A key is the same as a text if it is that text. -/
private theorem same_text_iff {key : Value} {k : String} :
    key.same (.text k) = true ↔ key = .text (.wellFormed k) := by
  cases key with
  | text s => simp
  | _ => simp [Value.same, Value.magnitude?]

/-- Only texts are known keys. -/
private theorem isKnown_iff {key : Value} :
    isKnown key = true ↔ ∃ k ∈ knownKeys, key = .text (.wellFormed k) := by
  unfold isKnown
  rw [List.any_eq_true]
  exact exists_congr fun k => and_congr_right fun _ => same_text_iff

/-- The value of another key stays what it is. -/
private theorem valueOf?_putEntry_of_ne {key other : String} (h : other ≠ key) (value : Value)
    (entries : List (Value × Value)) :
    valueOf? other (putEntry key value entries) = valueOf? other entries := by
  have hne : (Value.text key).same (.text other) = false := by
    rw [Value.text_same_text, beq_eq_false_iff_ne]
    exact fun heq => h (Text.Wide.wellFormed.inj heq).symm
  induction entries with
  | nil =>
    rw [putEntry, valueOf?]
    exact if_neg (Bool.eq_false_iff.1 hne)
  | cons entry rest ih =>
    obtain ⟨k, old⟩ := entry
    unfold putEntry
    split
    next hk =>
      -- the entry that is replaced is of the key, and so not of the other one
      obtain rfl := same_text_iff.1 hk
      rw [valueOf?, valueOf?, hne]
      rfl
    next => rw [valueOf?, valueOf?, ih]

/-- Other values stay what they are in a mapping that is not part of itself. -/
private theorem valueOf?_withEntry_of_apart {key other : String} (h : other ≠ key) (value : Value)
    (hapart : ∀ mark w, v ≠ .marked mark w) :
    valueOf? other (entriesOf (withEntry key value v)) = valueOf? other (entriesOf v) := by
  cases v with
  | marked mark w => exact absurd rfl (hapart mark w)
  | mapping entries => exact valueOf?_putEntry_of_ne h value entries
  | _ => rfl

/-- The keys of entries are those from before, and the one that is put there. -/
private theorem key_of_mem_putEntry {key : String} {value : Value} {entries : List (Value × Value)}
    {entry : Value × Value} (h : entry ∈ putEntry key value entries) :
    entry.1 = .text (.wellFormed key) ∨ ∃ e ∈ entries, e.1 = entry.1 := by
  induction entries with
  | nil =>
    obtain rfl := List.mem_singleton.1 h
    exact .inl rfl
  | cons e rest ih =>
    obtain ⟨k, old⟩ := e
    unfold putEntry at h
    -- the entry of the key is replaced, all others are kept
    split at h
    next hk =>
      obtain rfl | h := List.mem_cons.1 h
      · exact .inl (same_text_iff.1 hk)
      · exact .inr ⟨entry, List.mem_cons_of_mem _ h, rfl⟩
    next =>
      obtain rfl | h := List.mem_cons.1 h
      · exact .inr ⟨_, List.mem_cons_self, rfl⟩
      · exact (ih h).imp_right fun ⟨e, he, heq⟩ => ⟨e, List.mem_cons_of_mem _ he, heq⟩

/-- A value has no unknown key if its keys are known. -/
theorem unknownKeys_eq_nil_iff :
    unknownKeys v = [] ↔
      ∀ entry ∈ entriesOf v, ∃ key ∈ knownKeys, entry.1 = .text (.wellFormed key) := by
  simp only [unknownKeys, List.filter_eq_nil_iff, List.forall_mem_map, Bool.not_eq_true,
    Bool.not_eq_false', isKnown_iff]

/-- Putting a mapping into itself goes through its entries. -/
private theorem withAgainEntries_eq_map (mark : Nat) (whole : Value)
    (entries : List (Value × Value)) : Value.withAgainEntries mark whole entries =
      entries.map fun e =>
        (Value.withAgain mark whole e.1, Value.withAgain mark whole e.2) := by
  induction entries with
  | nil => rfl
  | cons e rest ih => rw [Value.withAgainEntries, ih, List.map_cons]

/-- A text within a value was one before a mapping was put into it. -/
private theorem eq_text_of_withAgain {mark : Nat} {w key : Value} {s : Text.Wide}
    (h : Value.withAgain mark (.marked mark w) key = .text s) : key = .text s := by
  -- a mapping is put where its mark stands, and that is no text
  cases key with
  | text t => exact h
  | again m =>
    unfold Value.withAgain at h
    split at h <;> cases h
  | marked m v =>
    unfold Value.withAgain at h
    split at h <;> cases h
  | _ => cases h

/-- With one more known key all keys are still known. -/
private theorem keys_withEntry {key : String} (hkey : key ∈ knownKeys) (value : Value)
    (h : ∀ entry ∈ entriesOf v, ∃ k ∈ knownKeys, entry.1 = .text (.wellFormed k)) :
    ∀ entry ∈ entriesOf (withEntry key value v),
      ∃ k ∈ knownKeys, entry.1 = .text (.wellFormed k) := by
  have hput : ∀ {entries : List (Value × Value)},
      (∀ entry ∈ entries, ∃ k ∈ knownKeys, entry.1 = .text (.wellFormed k)) →
      ∀ entry ∈ putEntry key value entries, ∃ k ∈ knownKeys, entry.1 = .text (.wellFormed k) := by
    intro entries hentries entry hentry
    obtain heq | ⟨e, he, heq⟩ := key_of_mem_putEntry hentry
    · exact ⟨key, hkey, heq⟩
    · exact heq ▸ hentries e he
  unfold withEntry
  split
  next entries => exact hput h
  next mark entries =>
    -- the keys are texts, which stay what they are within the mapping
    change ∀ entry ∈ Value.withAgainEntries mark _ (putEntry key value entries), _
    change ∀ entry ∈ Value.withAgainEntries mark _ entries, _ at h
    rw [withAgainEntries_eq_map, List.forall_mem_map] at h ⊢
    refine fun entry hentry => ?_
    obtain ⟨k, hk, heq⟩ := hput (fun e he => (h e he).imp fun _ => And.imp_right
      eq_text_of_withAgain) entry hentry
    exact ⟨k, hk, by rw [heq]; rfl⟩
  next => exact h

/-- What is no known key has no value in a mapping of known keys. -/
private theorem valueOf?_eq_none {entries : List (Value × Value)} {key : String}
    (hkey : key ∉ knownKeys)
    (hentries : ∀ entry ∈ entries, ∃ k ∈ knownKeys, entry.1 = .text (.wellFormed k)) :
    valueOf? key entries = none := by
  -- a key that is not a setting differs from every key of the entries
  induction entries with
  | nil => rfl
  | cons entry rest ih =>
    obtain ⟨⟨k, hk, hentry⟩, hrest⟩ := List.forall_mem_cons.1 hentries
    obtain ⟨_, v⟩ := entry
    obtain rfl : _ = Value.text (.wellFormed k) := hentry
    have hne : (Text.Wide.wellFormed k == .wellFormed key) = false := by
      rw [beq_eq_false_iff_ne]
      intro heq
      exact hkey (Text.Wide.wellFormed.inj heq ▸ hk)
    simp only [valueOf?, Value.text_same_text, hne, Bool.false_eq_true, if_false]
    exact ih hrest

/-- The patterns of an entry that can all be shown. -/
private theorem patternsOf_eq_ok {p : Option Value}
    (hform : ∀ w, p = some w → (∃ s, w.inside = .text s) ∨ ∃ items, w.inside = .list items)
    (hshowable : ∀ w items, p = some w → w.inside = .list items →
      ∀ item ∈ items, item.isShowable = true) :
    patternsOf file p = .ok (patternTexts p) := by
  cases p with
  | none => rfl
  | some w =>
    unfold patternsOf patternTexts
    -- a single text, or a list whose items can all be shown
    obtain ⟨s, hs⟩ | ⟨items, hitems⟩ := hform w rfl
    · simp only [hs]
    · simp only [hitems, Value.areShowable_iff.2 (hshowable w items rfl hitems), if_true]

/-- Settings say of each key what the entries that they are made of do. -/
private theorem value?_ofEntries {entries : List (Value × Value)} {patterns : List Text.Wide}
    (h : ∀ entry ∈ entries, ∃ key ∈ knownKeys, entry.1 = .text (.wellFormed key)) {key : String}
    (hkey : key ≠ "ignore_regex") :
    (ofEntries entries patterns).value? key = valueOf? key entries := by
  unfold value?
  split
  case h_6 => exact absurd rfl hkey
  case h_7 =>
    -- no other key is known
    refine (valueOf?_eq_none ?_ h).symm
    simp only [knownKeys, List.mem_cons, List.not_mem_nil, or_false, not_or]
    exact ⟨‹_›, ‹_›, ‹_›, ‹_›, ‹_›, ‹_›⟩
  all_goals rfl

/-- What is taken from a value with known keys says what the value does. -/
private theorem says_of_known
    (h : ∀ entry ∈ entriesOf v, ∃ key ∈ knownKeys, entry.1 = .text (.wellFormed key)) :
    Says v (ofEntries (entriesOf (withEntry "ignore_regex" (patternList v) v))
      (patternTexts (valueOf? "ignore_regex" (entriesOf v)))) where
  patterns_eq := rfl
  -- the keys of the mapping with its list of patterns are known, too
  value?_eq _ hkey := value?_ofEntries (keys_withEntry (by decide) (patternList v) h) hkey
  value?_of_apart hapart _ hkey :=
    (value?_ofEntries (keys_withEntry (by decide) (patternList v) h) hkey).trans
      (valueOf?_withEntry_of_apart hkey (patternList v) hapart)

/-- A well-formed value is read as what it says if its patterns can be shown. -/
theorem IsWellFormed.exists_ofValue (h : IsWellFormed v) (file : String)
    (hshowable : ¬ HasUnshowablePattern v) : ∃ s, ofValue file v = .ok s ∧ Says v s := by
  -- no pattern fails, as all of them can be shown
  have hpatterns : patternsOf file (valueOf? "ignore_regex" (entriesOf v)) =
      .ok (patternTexts (valueOf? "ignore_regex" (entriesOf v))) := by
    refine patternsOf_eq_ok h.patterns fun p items hp hitems item hitem => ?_
    by_contra hfalse
    exact hshowable ⟨p, items, hp, hitems, item, hitem, Bool.eq_false_iff.2 hfalse⟩
  rw [ofValue_of_known file h.isMapping (unknownKeys_eq_nil_iff.2 h.knownKeys), hpatterns]
  exact ⟨_, rfl, says_of_known h.knownKeys⟩

/-- A pattern that cannot be shown breaks the check of a value that is well-formed. -/
private theorem IsWellFormed.ofValue_eq_unshowable (h : IsWellFormed v) (file : String)
    (hunshowable : HasUnshowablePattern v) : ofValue file v = .error .unshowable := by
  obtain ⟨p, items, hp, hitems, item, hitem, hshowable⟩ := hunshowable
  have hrefused : ∀ r, SettingsError.unshowable ≠ .refused r := nofun
  exact (ofValue_eq_error_iff hrefused).2 (.unshowablePattern h.isMapping
    (unknownKeys_eq_nil_iff.2 h.knownKeys) hp hitems hitem hshowable)

/-- Keys that are texts can be sorted and shown, so that unknown ones are refused. -/
private theorem ofValue_of_unknown_text (file : String) (hunknown : unknownKeys v ≠ [])
    (htext : HasTextKeys v) :
    ∃ keys, ofValue file v = .error (.refused (.unknownKeys file keys)) := by
  -- texts can be compared and shown, so that the keys are sorted and named
  have hkeys : ∀ key ∈ unknownKeys v, ∃ k, key = .text k := by
    intro key hkey
    obtain ⟨entry, hentry, rfl⟩ := List.mem_map.1 (List.mem_of_mem_filter hkey)
    exact htext entry hentry
  have hcomparable : (unknownKeys v).Pairwise Value.Comparable := by
    refine List.pairwise_of_forall_mem_list fun key hkey key' hkey' => ?_
    obtain ⟨k, rfl⟩ := hkeys key hkey
    obtain ⟨k', rfl⟩ := hkeys key' hkey'
    exact ⟨.text, rfl, rfl⟩
  obtain ⟨keys, hsort⟩ := Option.isSome_iff_exists.1 ((Value.isSome_sortKeys?_iff _).2 hcomparable)
  have hshowable : Value.areShowable keys = true := by
    refine Value.areShowable_iff.2 fun key hkey => ?_
    obtain ⟨k, rfl⟩ := hkeys key ((Value.perm_of_sortKeys? hsort).mem_iff.1 hkey)
    rfl
  refine ⟨keys, ?_⟩
  rw [ofValue_of_unknown file hunknown, hsort]
  simp only [hshowable, if_true]

/-- Patterns that are neither a text nor a list are refused. -/
private theorem patternsOf_of_other {p : Value} (htext : ∀ s, p.inside ≠ .text s)
    (hlist : ∀ items, p.inside ≠ .list items) :
    patternsOf file (some p) = .error (.refused (.patternsNotList file)) := by
  unfold patternsOf
  dsimp only
  -- neither of the two forms applies
  split
  next s hs => exact absurd hs (htext s)
  next items hitems => exact absurd hitems (hlist items)
  next => rfl

/-- Any other value whose keys are texts is refused, with the file that it is from. -/
theorem exists_refusal_of_not_isWellFormed (file : String) (h : ¬ IsWellFormed v)
    (htext : HasTextKeys v) :
    ∃ refusal, ofValue file v = .error (.refused refusal) ∧ refusal.file = some file := by
  -- the first part of the form that fails is the part that is refused
  by_cases hmapping : IsMapping v
  · by_cases hknown : unknownKeys v = []
    · -- the keys are known, so that the fault is with the patterns
      have hpatterns : ¬ ∀ p, valueOf? "ignore_regex" (entriesOf v) = some p →
          (∃ s, p.inside = .text s) ∨ ∃ items, p.inside = .list items :=
        fun hpatterns => h ⟨hmapping, unknownKeys_eq_nil_iff.1 hknown, hpatterns⟩
      push Not at hpatterns
      obtain ⟨p, hp, hp_text, hp_list⟩ := hpatterns
      refine ⟨.patternsNotList file, ?_, rfl⟩
      rw [ofValue_of_known file hmapping hknown, hp, patternsOf_of_other hp_text hp_list]
      rfl
    · obtain ⟨keys, hkeys⟩ := ofValue_of_unknown_text file hknown htext
      exact ⟨_, hkeys, rfl⟩
  · exact ⟨.notMapping file, ofValue_of_not_mapping file hmapping, rfl⟩

/-! ## Loading -/

/-- What comes of a settings file with a value: settings that say what the value does, or a refusal
that carries the file. Only a pattern that cannot be shown ends in neither. -/
structure ComesOf (path : Path) (v : Value)
    (outcome : Except SettingsError (Option Path × Settings)) : Prop where
  accepted : IsWellFormed v → ¬ HasUnshowablePattern v →
    ∃ s, outcome = .ok (some path, s) ∧ Says v s
  unshowable : IsWellFormed v → HasUnshowablePattern v → outcome = .error .unshowable
  refused : ¬ IsWellFormed v →
    ∃ refusal, outcome = .error (.refused refusal) ∧ refusal.file = some path.text

/-- Why a file cannot be read as a value. -/
inductive IsUnreadable (host : Host) (path : Path) : UnreadableFile → Prop where
  | io {e : IoError} : host.read path = .error e → IsUnreadable host path (.io e)
  | malformed {content : ByteArray} :
    host.read path = .ok content → host.valueOf content = .error .malformed →
      IsUnreadable host path .malformed

/-- A file that cannot be read is refused, with the cause. -/
private theorem IsUnreadable.ofFile_eq {cause : UnreadableFile} (h : IsUnreadable host path cause) :
    ofFile host path = .error (.refused (.unreadableFile path.text cause)) := by
  unfold ofFile
  cases h with
  | io hread => simp only [hread]
  | malformed hread hvalue => simp only [hread, hvalue]

/-- Loading settings reads the file that is consulted. -/
theorem load_of_isConsulted (h : IsConsulted host cwd named root path) :
    load host cwd named root = (fun s => (some path, s)) <$> ofFile host path := by
  unfold load
  rw [locate_eq_some_iff.2 h, ok_bind]
  cases hfile : ofFile host path <;> simp only [hfile] <;> rfl

/-- What comes of the file that is consulted is up to its value. -/
private theorem comesOf_load {content : ByteArray} (h : IsConsulted host cwd named root path)
    (hread : host.read path = .ok content) (hvalue : host.valueOf content = .ok v)
    (hkeys : HasTextKeys v) : ComesOf path v (load host cwd named root) := by
  have hfile : ofFile host path = ofValue path.text v := by
    unfold ofFile
    simp only [hread, hvalue]
  rw [load_of_isConsulted h, hfile]
  -- the parts: well formed and showable, well formed but not showable, and not well formed
  refine ⟨fun hform hshowable => ?_, fun hform hunshowable => ?_, fun hform => ?_⟩
  · obtain ⟨s, hs, hsaid⟩ := hform.exists_ofValue path.text hshowable
    exact ⟨s, by rw [hs]; rfl, hsaid⟩
  · rw [hform.ofValue_eq_unshowable path.text hunshowable]
    rfl
  · obtain ⟨refusal, hrefusal, hfile⟩ :=
      exists_refusal_of_not_isWellFormed path.text hform hkeys
    exact ⟨refusal, by rw [hrefusal]; rfl, hfile⟩

/-- What comes of loading settings. A file that is named and missing is refused. Where none is named
and none found, the settings are empty. If it is not told where to look or what is there, the
loading ends. Otherwise there is one file to be consulted: it is refused if it cannot be read, ends
the loading if there is no such value as it asks for, and what comes of it is up to its value if
there is one. -/
theorem load_outcome (host : Host) (cwd : Path) (named : Option String) (root : String) :
    (∀ name path, given? named = some name → host.resolve cwd name = .ok path →
      host.exists? path = .ok false →
      load host cwd named root = .error (.refused (.fileNotFound path.text))) ∧
    (∀ start directory, given? named = none → host.resolve cwd root = .ok start →
      host.directoryOf start = .ok directory →
      (∀ n ∈ fileNames, host.exists? (directory ++ [n]) = .ok false) →
      load host cwd named root = .ok (none, {})) ∧
    (∀ e, LocateBreaks host cwd named root e → load host cwd named root = .error e) ∧
    (∀ path cause, IsConsulted host cwd named root path → IsUnreadable host path cause →
      load host cwd named root = .error (.refused (.unreadableFile path.text cause))) ∧
    (∀ path content e, IsConsulted host cwd named root path → host.read path = .ok content →
      host.valueOf content = .error e → e ≠ .malformed →
      load host cwd named root = .error (.valueless e)) ∧
    ∀ path content v, IsConsulted host cwd named root path → host.read path = .ok content →
      host.valueOf content = .ok v → HasTextKeys v →
      ComesOf path v (load host cwd named root) := by
  refine ⟨?_, ?_, ?_, ?_, ?_, fun path content v => comesOf_load⟩
  · intro name path hnamed hresolve hmissing
    rw [load, locate_of_missing hnamed hresolve hmissing]
    rfl
  · intro start directory hnamed hresolve hdirectory hmissing
    -- no file is there, so that the settings are empty
    rw [load, locate_of_no_file hnamed hresolve hdirectory hmissing]
    rfl
  · intro e he
    rw [load, (locate_eq_error_iff he.ne_refused).2 he]
    rfl
  · intro path cause hconsulted hcause
    rw [load_of_isConsulted hconsulted, hcause.ofFile_eq]
    rfl
  · intro path content e hconsulted hread hvalue hform
    have hrefused : ∀ r, SettingsError.valueless e ≠ .refused r := nofun
    -- the file is there and cannot be read
    have hfile : ofFile host path = .error (.valueless e) :=
      (ofFile_eq_error_iff hrefused).2 (.valueless hread hvalue hform)
    rw [load_of_isConsulted hconsulted, hfile]
    rfl
-- the file is read and has no value

/-- A directory with two settings files. The preferred one has a severity and two patterns, of which
one is a number. -/
def preferredSettings : FileTree where
  entries := [(".leaksniff.yaml", .file "severity: low".toUTF8), (".leaksniff.yml", .file content)]
where
  /-- What the preferred file holds. -/
  content : ByteArray := "severity: high\nignore_regex: [a, 1]".toUTF8
  /-- The value of that. -/
  value : Value := .mapping
    [(.text "severity", .text "high"), (.text "ignore_regex", .list [.text "a", .int 1])]

/-- The value of the example. -/
private theorem valueOf_preferredSettings :
    preferredSettings.host.valueOf preferredSettings.content = .ok preferredSettings.value := by
  -- the document is followed through its tokens and its nodes, so that each step stays small
  let tokens : List Yaml.Token := [.blockMappingStart, .key, .scalar "severity" true, .value,
    .scalar "high" true, .key, .scalar "ignore_regex" true, .value, .flowSequenceStart,
    .scalar "a" true, .flowEntry, .scalar "1" true, .flowSequenceEnd, .blockEnd]
  let document : Yaml.Document := ⟨#[.mapping .map [(1, 2), (3, 4)], .scalar .str "severity",
    .scalar .str "high", .scalar .str "ignore_regex", .sequence .seq [5, 6], .scalar .str "a",
    .scalar .int "1"], 0⟩
  have htokens : Yaml.Token.ofInput (.ofBytes preferredSettings.content.data.toList) = tokens := by
    decide +kernel
  have hdocument : Yaml.Document.ofTokens? tokens = .ok (some document) := by decide +kernel
  have hvalue : document.value = .ok preferredSettings.value := by cbv
  show Yaml.read preferredSettings.content.data.toList = _
  rw [Yaml.read, htokens, hdocument, ok_bind]
  exact hvalue

/-- Only the preferred file counts, and its patterns become texts. -/
theorem load_preferredSettings :
    (IsConsulted preferredSettings [] none "." [".leaksniff.yml"] ∧
      preferredSettings.host.read [".leaksniff.yml"] = .ok preferredSettings.content ∧
      preferredSettings.host.valueOf preferredSettings.content = .ok preferredSettings.value ∧
      HasTextKeys preferredSettings.value) ∧
    ∃ s, load preferredSettings [] none "." = .ok (some [".leaksniff.yml"], s) ∧
      s.value? "severity" = some (.text "high") ∧ s.value? "entropy" = none ∧
      s.value? "ignore_regex" = some (.list [.text "a", .text "1"]) := by
  -- the file is the first of the names looked for
  have hroot : preferredSettings.host.resolve [] "." = .ok [] := by cbv
  have hdirectory : preferredSettings.host.directoryOf [] = .ok [] := by cbv
  have hexists : preferredSettings.host.exists? [".leaksniff.yml"] = .ok true := by cbv
  have hread : preferredSettings.host.read [".leaksniff.yml"] = .ok preferredSettings.content := by
    cbv
  have hvalue := valueOf_preferredSettings
  have hconsulted : IsConsulted preferredSettings [] none "." [".leaksniff.yml"] :=
    ⟨.inDirectory rfl hroot hdirectory (show fileNames = [] ++ _ from rfl) (by simp),
      hexists⟩
  -- the two keys are known and the patterns are a list, of items that can be shown
  have hkeys : HasTextKeys preferredSettings.value := by
    simp [HasTextKeys, entriesOf, preferredSettings.value, Value.inside]
  have hform : IsWellFormed preferredSettings.value := by
    refine ⟨.inr ⟨_, rfl⟩, ?_, ?_⟩
    · simp [entriesOf, preferredSettings.value, Value.inside, knownKeys]
    · intro p hp
      obtain rfl : Value.list [.text "a", .int 1] = p := Option.some.inj hp
      exact .inr ⟨_, rfl⟩
  have hshowable : ¬ HasUnshowablePattern preferredSettings.value := by
    rintro ⟨p, items, hp, hitems, item, hitem, hfalse⟩
    obtain rfl : Value.list [.text "a", .int 1] = p := Option.some.inj hp
    obtain rfl : [Value.text "a", .int 1] = items := Value.list.inj hitems
    have hall : Value.areShowable [.text "a", .int 1] = true := by decide +kernel
    cases hfalse.symm.trans (Value.areShowable_iff.1 hall item hitem)
  obtain ⟨-, -, -, -, -, hcomes⟩ := load_outcome preferredSettings [] none "."
  obtain ⟨s, hload, hsaid⟩ :=
    (hcomes _ _ _ hconsulted hread hvalue hkeys).accepted hform hshowable
  refine ⟨⟨hconsulted, hread, hvalue, hkeys⟩, s, hload, ?_, ?_, ?_⟩
  · rw [hsaid.value?_eq "severity" (by decide)]
    rfl
  · rw [hsaid.value?_eq "entropy" (by decide)]
    rfl
  · rw [hsaid.patterns_eq]
    rfl

end Settings

end SecretScan
