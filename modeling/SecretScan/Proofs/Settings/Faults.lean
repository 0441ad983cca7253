import Mathlib
import SecretScan.CommandLine.Program
import SecretScan.Proofs.ScanOptions
import SecretScan.Proofs.Settings.Entries
import SecretScan.Proofs.Settings.Locating

/-!
# Settings that end a scan without a refusal

Settings that cannot be used are refused with a message, but not all of them: some faults are none
that the user is told about. For each step between the settings file and the options of a scan an
inductive predicate lists the faults of that kind, and a lemma says that the step has no others.
What files there are, what is in them and which patterns can be used is up to the `Host`.

## Key results

- `ScanOptions.faultOf_ofRequest`: a request fails at the first option that has a fault
- `ScanOptions.ofRequest_eq_error_iff`: the faults of a request that are no refusals
- `Settings.load_eq_error_iff`: those of a settings file
- `ScanOptions.ofSettings_eq_error_iff`: those between the settings of a scan and its options
-/

namespace SecretScan

/-! ## Options -/

namespace ScanOptions

variable {host : Host} {cwd directory start : Path} {root : String} {r : ScanRequest}
  {e : SettingsError}

/-- The options of a request that are checked. -/
inductive CheckedOption where
  | severity
  | entropy
  | maxFindings
  | maxFileSize
  | ignoreFile
  | patterns
  deriving DecidableEq

/-- The options in the order of the checks. -/
def CheckedOption.all : List CheckedOption :=
  [.severity, .entropy, .maxFindings, .maxFileSize, .ignoreFile, .patterns]

/-- The raw value of an option. -/
def CheckedOption.valueIn (r : ScanRequest) : CheckedOption → Value
  | .severity => r.severity
  | .entropy => r.entropy
  | .maxFindings => r.maxFindings
  | .maxFileSize => r.maxFileSize
  | .ignoreFile => r.ignoreFile
  | .patterns => r.patterns

/-- The fault of an option that is given as a value. -/
def fault? (host : Host) (directory : Path) (o : CheckedOption) (v : Value) :
    Option SettingsError :=
  match o with
  | .severity => faultOf (severityOf v)
  | .entropy => faultOf (optional 0 v (numberOf .invalidEntropy))
  | .maxFindings => faultOf (optional 0 v (positiveOf .invalidMaxFindings))
  | .maxFileSize => faultOf (optional 0 v (positiveOf .invalidMaxFileSize))
  | .ignoreFile => faultOf (ignoreFileOf host directory v)
  | .patterns => faultOf (patternsOf host v)

/-- The fault of an option that may be left out; what it is by default has no part in it. -/
theorem faultOf_optional {α : Type} (default : α) (v : Value)
    (read : Value → Except SettingsError α) :
    faultOf (optional default v read) =
      if !v.isShowable then some .unshowable
      else if isGiven v then faultOf (read v)
      else none := by
  unfold optional
  -- showing comes first, and reading only if something is given
  split
  · rfl
  · split <;> rfl

/-- A request for an existing root fails at the first option that has a fault. -/
theorem faultOf_ofRequest (hroot : host.resolve cwd root = .ok start)
    (hexists : host.exists? start = .ok true)
    (hdirectory : host.directoryOf start = .ok directory) :
    faultOf (ofRequest host cwd root r) = CheckedOption.all.findSome? fun o =>
      fault? host directory o (o.valueIn r) := by
  unfold ofRequest
  rw [hroot, mapError_ok, ok_bind, hexists, mapError_ok, ok_bind]
  simp only [Bool.not_true, Bool.false_eq_true, if_false]
  simp only [CheckedOption.all, findSome?_cons_eq_or]
  -- one step after the other, in the order of the checks
  refine faultOf_bind rfl fun severity => ?_
  refine faultOf_bind ?_ fun entropyThreshold => ?_
  · simp only [fault?, CheckedOption.valueIn, faultOf_optional]
  refine faultOf_bind ?_ fun maxFindings => ?_
  · simp only [fault?, CheckedOption.valueIn, faultOf_optional, faultOf_map]
  refine faultOf_bind ?_ fun maxFileSize => ?_
  · simp only [fault?, CheckedOption.valueIn, faultOf_optional]
  rw [hdirectory, mapError_ok, ok_bind]
  refine faultOf_bind rfl fun ignoreFile => ?_
  exact faultOf_bind rfl fun suppressions => rfl

/-! ### Faults of options that are no refusals -/

/-- The faults of the value of an option that are no refusals. -/
inductive Breaks (host : Host) (directory : Path) :
    CheckedOption → Value → SettingsError → Prop where
  /-- The value is to be shown, but there is a number in it that is too long. -/
  | unshowable {o : CheckedOption} {v : Value} :
    o ∈ [.severity, .entropy, .maxFindings, .maxFileSize] → v.isShowable = false →
      Breaks host directory o v .unshowable
  /-- A whole number stands for a floating-point number that there is not. -/
  | numberTooLarge {o : CheckedOption} {n : Int} :
    o ∈ [.entropy, .maxFindings, .maxFileSize] → (Value.int n).isShowable = true →
      Decimal.floatOfInt? n = none → Breaks host directory o (.int n) .numberTooLarge
  /-- No ignore list is named, and it is not told whether the default one is there. -/
  | inaccessible {v : Value} {e : IoError} :
    v.isBlank = true → host.exists? (directory ++ [defaultIgnoreName]) = .error e →
      Breaks host directory .ignoreFile v (.inaccessible e)
  /-- The ignore list is named by something that is no text. -/
  | notText {v : Value} :
    v.isBlank = false → (∀ name, v ≠ .text name) → Breaks host directory .ignoreFile v .notText
  /-- The name of the ignore list leads nowhere. -/
  | unresolvable {name : Text.Wide} {e : FileTree.ResolveError} :
    name.isEmpty = false → Path.isAbsolute name.shown = false →
      host.resolve directory name = .error e →
      Breaks host directory .ignoreFile (.text name) (.unresolvable e)
  /-- A pattern cannot be used, though nothing is wrong with its form. -/
  | unusablePattern {before after : List Text.Wide} {source : Text.Wide} {e : Pattern.Error} :
    (∀ p ∈ before, ∃ q, host.patternOf p = .ok q) → host.patternOf source = .error e →
      (∀ reason pos, e ≠ .malformed reason pos) →
      Breaks host directory .patterns (.list ((before ++ source :: after).map .text))
        (.unusablePattern e)

/-- What breaks a check is no refusal. -/
theorem Breaks.ne_refused {o : CheckedOption} {v : Value} (h : Breaks host directory o v e)
    (refusal : Refusal) : e ≠ .refused refusal := by
  cases h <;> exact nofun

/-- Only a whole number can be too large to be read as a number. -/
private theorem number_eq_tooLarge_iff {v : Value} :
    v.number = .error .tooLarge ↔ ∃ n, v = .int n ∧ Decimal.floatOfInt? n = none := by
  -- only a whole number can be beyond the floats; numerals of any size are read
  cases v with
  | int n => cases h : Decimal.floatOfInt? n <;> simp [Value.number, h]
  | text s =>
    cases s with
    | wellFormed s => cases h : Decimal.readNumber? s.toList <;> simp [Value.number, h]
    | illFormed t => simp [Value.number]
  | bytes content =>
    simp only [Value.number, reduceCtorEq, false_and, exists_false, iff_false]
    split <;> simp
  | _ => simp [Value.number]

/-- Reading a number fails without a refusal where it is too large. -/
theorem numberOf_eq_error_iff {refusal : Refusal} {v : Value} (he : ∀ r, e ≠ .refused r) :
    numberOf refusal v = .error e ↔
      ∃ n, v = .int n ∧ Decimal.floatOfInt? n = none ∧ e = .numberTooLarge := by
  unfold numberOf
  constructor
  · -- the value is read as a number, unless it is a whole number beyond the floats
    intro h
    split at h
    · split at h
      · exact absurd (Except.error.inj h).symm (he _)
      · exact nomatch h
    · exact absurd (Except.error.inj h).symm (he _)
    next hnumber =>
      obtain ⟨n, hv, hn⟩ := number_eq_tooLarge_iff.1 hnumber
      exact ⟨n, hv, hn, (Except.error.inj h).symm⟩
  · rintro ⟨n, hv, hn, rfl⟩
    rw [number_eq_tooLarge_iff.2 ⟨n, hv, hn⟩]

/-- Reading a whole number fails without a refusal where reading a number does. -/
private theorem positiveOf_eq_error_iff {refusal : Refusal} {v : Value} (he : ∀ r, e ≠ .refused r) :
    positiveOf refusal v = .error e ↔ numberOf refusal v = .error e := by
  refine bind_eq_error_iff.trans (or_iff_left ?_)
  -- what is read as a number and then refused is no fault
  rintro ⟨x, _, h⟩
  split at h
  · split at h
    · exact nomatch h
    · exact he _ (Except.error.inj h).symm
  · exact he _ (Except.error.inj h).symm

/-- The faults of an option that is read as a number. -/
theorem fault_of_number {o : CheckedOption} {v : Value} {α : Type} {default : α}
    {read : Value → Except SettingsError α} (ho : o ∈ [.entropy, .maxFindings, .maxFileSize])
    (hread : read v = .error e ↔
      ∃ n, v = .int n ∧ Decimal.floatOfInt? n = none ∧ e = .numberTooLarge) :
    faultOf (optional default v read) = some e ↔ Breaks host directory o v e := by
  have hshown : o ∈ [.severity, .entropy, .maxFindings, .maxFileSize] :=
    List.mem_cons_of_mem _ ho
  rw [faultOf_optional]
  -- a value that cannot be shown ends the check before it is read
  cases hshowable : v.isShowable with
  | false =>
    simp only [Bool.not_false, if_true, Option.some.injEq]
    constructor
    · rintro rfl
      exact .unshowable hshown hshowable
    · intro h
      cases h with
      | unshowable => rfl
      | numberTooLarge _ h => exact absurd h (by simp [hshowable])
      | _ => simp at ho
  | true =>
    simp only [Bool.not_true, Bool.false_eq_true, if_false]
    constructor
    · intro h
      split at h
      · obtain ⟨n, rfl, hn, rfl⟩ := hread.1 (faultOf_eq_some_iff.1 h)
        exact .numberTooLarge ho hshowable hn
      · exact nomatch h
    · intro h
      cases h with
      | unshowable _ h => exact absurd h (by simp [hshowable])
      | numberTooLarge _ _ hn => exact faultOf_eq_some_iff.2 (hread.2 ⟨_, rfl, hn, rfl⟩)
      | _ => simp at ho

/-- Reading a severity fails without a refusal where its value cannot be shown. -/
private theorem severityOf_eq_error_iff {v : Value} (he : ∀ r, e ≠ .refused r) :
    severityOf v = .error e ↔ Breaks host directory .severity v e := by
  constructor
  · -- a known name passes, and an unknown one is refused if it can be shown
    intro h
    unfold severityOf at h
    split at h
    · exact nomatch h
    · -- a text can be shown, so that an unknown one is refused
      dsimp only at h
      split at h
      · exact nomatch h
      · exact absurd (Except.error.inj h).symm (he _)
    · split at h
      · exact absurd (Except.error.inj h).symm (he _)
      next hshowable =>
        obtain rfl := Except.error.inj h
        exact .unshowable (by simp) (Bool.eq_false_iff.2 hshowable)
  · intro h
    cases h with
    | unshowable _ hshowable =>
      unfold severityOf
      split
      · exact nomatch hshowable
      · exact nomatch hshowable
      · rw [hshowable]
        rfl
    | numberTooLarge ho => simp at ho

/-- The faults of naming an ignore list; none of them is a refusal. -/
theorem ignoreFileOf_eq_error_iff {v : Value} :
    ignoreFileOf host directory v = .error e ↔ Breaks host directory .ignoreFile v e := by
  unfold ignoreFileOf
  constructor
  · intro h
    -- a blank value asks for the default file, whose existence is looked up
    split at h
    next hblank =>
      rw [← faultOf_eq_some_iff, faultOf_map, faultOf_eq_some_iff] at h
      obtain ⟨e', he', rfl⟩ := mapError_eq_error_iff.1 h
      exact .inaccessible hblank he'
    next hblank =>
      have hblank : v.isBlank = false := Bool.eq_false_iff.2 hblank
      -- a relative name is resolved inside the directory; an absolute one is taken as it is
      split at h
      next name =>
        split at h
        · exact nomatch h
        next habsolute =>
          rw [← faultOf_eq_some_iff, faultOf_map, faultOf_eq_some_iff] at h
          obtain ⟨e', he', rfl⟩ := mapError_eq_error_iff.1 h
          exact .unresolvable hblank (Bool.eq_false_iff.2 habsolute) he'
      next htext =>
        obtain rfl := Except.error.inj h
        exact .notText hblank htext
  · intro h
    cases h with
    | unshowable ho | numberTooLarge ho => simp at ho
    | inaccessible hblank he' =>
      rw [if_pos hblank]
      dsimp only
      rw [he']
      rfl
    | notText hblank htext =>
      cases v with
      | text name => exact absurd rfl (htext name)
      | _ => simp [hblank]
    | @unresolvable name _ hempty habsolute hresolve =>
      have hblank : ¬ (Value.text name).isBlank = true := Bool.eq_false_iff.1 hempty
      rw [if_neg hblank]
      dsimp only
      rw [if_neg (Bool.eq_false_iff.1 habsolute), hresolve]
      rfl

/-- A pattern is read where the host reads it. -/
theorem patternOf_eq_ok_iff {source : Text.Wide} {p : Pattern} :
    patternOf host (.text source) = .ok p ↔ host.patternOf source = .ok p := by
  cases hparse : host.patternOf source with
  | ok q => simp [patternOf, hparse]
  | error e => cases e <;> simp [patternOf, hparse]

/-- Reading a pattern fails without a refusal for any fault that is not of its form. -/
private theorem patternOf_eq_error_iff {source : Text.Wide} (he : ∀ r, e ≠ .refused r) :
    patternOf host (.text source) = .error e ↔
      ∃ e', host.patternOf source = .error e' ∧ (∀ reason pos, e' ≠ .malformed reason pos) ∧
        e = .unusablePattern e' := by
  have hrefused : ∀ r, SettingsError.refused r ≠ e := fun r => (he r).symm
  -- a malformed pattern is refused, and only the other errors are faults
  cases hparse : host.patternOf source with
  | ok p => simp [patternOf, hparse]
  | error e' =>
    cases e' with
    | malformed reason pos => simp [patternOf, hparse, hrefused]
    | _ => simp [patternOf, hparse, eq_comm]

/-- A list of texts is read pattern by pattern. -/
theorem patternsOf_texts (host : Host) (sources : List Text.Wide) :
    patternsOf host (.list (sources.map .text)) = (sources.map Value.text).mapM (patternOf host) :=
  rfl

/-- Reading patterns fails at the first that cannot be used. -/
theorem patternsOf_eq_error_iff {sources : List Text.Wide} (he : ∀ r, e ≠ .refused r) :
    patternsOf host (.list (sources.map .text)) = .error e ↔
      Breaks host directory .patterns (.list (sources.map .text)) e := by
  rw [patternsOf_texts, mapM_eq_error_iff]
  constructor
  · -- the first pattern that cannot be used is the one reported
    rintro ⟨before, v, after, hsplit, hbefore, hv⟩
    obtain ⟨before, rest, rfl, rfl, hrest⟩ := List.map_eq_append_iff.1 hsplit
    obtain ⟨source, after, rfl, rfl, rfl⟩ := List.map_eq_cons_iff.1 hrest
    obtain ⟨e', hparse, hform, rfl⟩ := (patternOf_eq_error_iff he).1 hv
    refine .unusablePattern ?_ hparse hform
    intro p hp
    obtain ⟨q, hq⟩ := hbefore (.text p) (List.mem_map_of_mem hp)
    exact ⟨q, patternOf_eq_ok_iff.1 hq⟩
  · intro h
    generalize hv : Value.list (sources.map .text) = v at h
    cases h with
    | unshowable ho | numberTooLarge ho => simp at ho
    | @unusablePattern before after source e' hbefore hparse hform =>
      refine ⟨before.map .text, .text source, after.map .text, ?_, ?_, ?_⟩
      · rw [Value.list.inj hv, List.map_append, List.map_cons]
      · intro v hv
        obtain ⟨p, hp, rfl⟩ := List.mem_map.1 hv
        obtain ⟨q, hq⟩ := hbefore p hp
        exact ⟨q, patternOf_eq_ok_iff.2 hq⟩
      · exact (patternOf_eq_error_iff he).2 ⟨e', hparse, hform, rfl⟩

/-- The faults of the options of a request whose patterns are texts. -/
theorem fault?_eq_some_iff {sources : List Text.Wide}
    (hpatterns : r.patterns = .list (sources.map .text)) {o : CheckedOption}
    (he : ∀ r, e ≠ .refused r) :
    fault? host directory o (o.valueIn r) = some e ↔ Breaks host directory o (o.valueIn r) e := by
  -- one check for each option, and the patterns are known to be a list of texts
  cases o with
  | severity => exact faultOf_eq_some_iff.trans (severityOf_eq_error_iff he)
  | entropy => exact fault_of_number (by simp) (numberOf_eq_error_iff he)
  | maxFindings =>
    exact fault_of_number (by simp) ((positiveOf_eq_error_iff he).trans (numberOf_eq_error_iff he))
  | maxFileSize =>
    exact fault_of_number (by simp) ((positiveOf_eq_error_iff he).trans (numberOf_eq_error_iff he))
  | ignoreFile => exact faultOf_eq_some_iff.trans ignoreFileOf_eq_error_iff
  | patterns =>
    have hvalue : CheckedOption.patterns.valueIn r = .list (sources.map .text) := hpatterns
    rw [hvalue]
    exact faultOf_eq_some_iff.trans (patternsOf_eq_error_iff he)

/-! ### Requests -/

/-- The faults of a request that are no refusals. -/
inductive RequestBreaks (host : Host) (cwd : Path) (root : String) (r : ScanRequest) :
    SettingsError → Prop where
  /-- The name of the root leads nowhere. -/
  | unresolvable {e : FileTree.ResolveError} :
    host.resolve cwd root = .error e → RequestBreaks host cwd root r (.unresolvable e)
  /-- It is not told whether the root exists. -/
  | inaccessible {start : Path} {e : IoError} :
    host.resolve cwd root = .ok start → host.exists? start = .error e →
      RequestBreaks host cwd root r (.inaccessible e)
  /-- The root exists, and the first option that has a fault breaks the check. -/
  | option {start directory : Path} {before after : List CheckedOption} {o : CheckedOption}
    {e : SettingsError} :
    host.resolve cwd root = .ok start → host.exists? start = .ok true →
      host.directoryOf start = .ok directory → CheckedOption.all = before ++ o :: after →
      (∀ p ∈ before, fault? host directory p (p.valueIn r) = none) →
      Breaks host directory o (o.valueIn r) e → RequestBreaks host cwd root r e

/-- For an existing root it is the first option with a fault that ends the check. -/
private theorem ofRequest_eq_error_iff_of_exists {sources : List Text.Wide}
    (hpatterns : r.patterns = .list (sources.map .text)) (he : ∀ r, e ≠ .refused r)
    (hroot : host.resolve cwd root = .ok start) (hexists : host.exists? start = .ok true) :
    ofRequest host cwd root r = .error e ↔ RequestBreaks host cwd root r e := by
  obtain ⟨directory, hdirectory⟩ := Host.exists_directoryOf hexists
  -- the options are checked in order, so that the first fault is the outcome
  rw [← faultOf_eq_some_iff, faultOf_ofRequest hroot hexists hdirectory,
    List.findSome?_eq_some_iff]
  constructor
  · rintro ⟨before, o, after, hsplit, ho, hbefore⟩
    exact .option hroot hexists hdirectory hsplit hbefore ((fault?_eq_some_iff hpatterns he).1 ho)
  · intro h
    cases h with
    | unresolvable hroot' => exact nomatch hroot.symm.trans hroot'
    | inaccessible hroot' hexists' =>
      obtain rfl := Except.ok.inj (hroot.symm.trans hroot')
      exact nomatch hexists.symm.trans hexists'
    | option hroot' _ hdirectory' hsplit hbefore ho =>
      obtain rfl := Except.ok.inj (hroot.symm.trans hroot')
      obtain rfl := Except.ok.inj (hdirectory.symm.trans hdirectory')
      exact ⟨_, _, _, hsplit, (fault?_eq_some_iff hpatterns he).2 ho, hbefore⟩

/-- A request for a root that leads nowhere fails. -/
private theorem ofRequest_of_unresolvable {e : FileTree.ResolveError}
    (hroot : host.resolve cwd root = .error e) :
    ofRequest host cwd root r = .error (.unresolvable e) := by
  unfold ofRequest
  rw [hroot]
  rfl

/-- A request fails if it is not told whether its root exists. -/
private theorem ofRequest_of_inaccessible {e : IoError} (hroot : host.resolve cwd root = .ok start)
    (hexists : host.exists? start = .error e) :
    ofRequest host cwd root r = .error (.inaccessible e) := by
  unfold ofRequest
  rw [hroot, mapError_ok, ok_bind, hexists]
  rfl

/-- A request for a root that does not exist is refused. -/
private theorem ofRequest_of_missing (hroot : host.resolve cwd root = .ok start)
    (hexists : host.exists? start = .ok false) :
    ofRequest host cwd root r = .error (.refused (.pathNotFound start.text)) := by
  unfold ofRequest
  rw [hroot, mapError_ok, ok_bind, hexists, mapError_ok, ok_bind]
  rfl

/-- The faults of a request that are no refusals. -/
theorem ofRequest_eq_error_iff {sources : List Text.Wide}
    (hpatterns : r.patterns = .list (sources.map .text)) (he : ∀ r, e ≠ .refused r) :
    ofRequest host cwd root r = .error e ↔ RequestBreaks host cwd root r e := by
  cases hroot : host.resolve cwd root with
  | error e' =>
    rw [ofRequest_of_unresolvable hroot]
    constructor
    · intro h
      obtain rfl := Except.error.inj h
      exact .unresolvable hroot
    · intro h
      cases h with
      | unresolvable hroot' => rw [Except.error.inj (hroot.symm.trans hroot')]
      | inaccessible hroot' | option hroot' => exact nomatch hroot.symm.trans hroot'
  | ok start =>
    -- the other faults need an answer to whether this path exists
    have hsame : ∀ {start'}, host.resolve cwd root = .ok start' → start' = start :=
      fun hroot' => Except.ok.inj (hroot'.symm.trans hroot)
    cases hexists : host.exists? start with
    | error e' =>
      rw [ofRequest_of_inaccessible hroot hexists]
      constructor
      · intro h
        obtain rfl := Except.error.inj h
        exact .inaccessible hroot hexists
      · intro h
        cases h with
        | unresolvable hroot' => exact nomatch hroot.symm.trans hroot'
        | inaccessible hroot' hexists' =>
          rw [hsame hroot', hexists] at hexists'
          rw [Except.error.inj hexists']
        | option hroot' hexists' =>
          rw [hsame hroot', hexists] at hexists'
          exact nomatch hexists'
    | ok found =>
      cases found with
      | true => exact ofRequest_eq_error_iff_of_exists hpatterns he hroot hexists
      | false =>
        rw [ofRequest_of_missing hroot hexists]
        constructor
        · intro h
          exact absurd (Except.error.inj h).symm (he _)
        · intro h
          cases h with
          | unresolvable hroot' => exact nomatch hroot.symm.trans hroot'
          | inaccessible hroot' hexists' | option hroot' hexists' =>
            rw [hsame hroot', hexists] at hexists'
            exact nomatch hexists'

end ScanOptions

/-! ## Settings files -/

namespace Settings

variable {host : Host} {cwd : Path} {named : Option String} {root : String} {e : SettingsError}

/-- The faults of looking for the settings of a scan and reading them that are no refusals. -/
inductive LoadBreaks (host : Host) (cwd : Path) (named : Option String) (root : String) :
    SettingsError → Prop where
  | locate {e : SettingsError} :
    LocateBreaks host cwd named root e → LoadBreaks host cwd named root e
  | file {path : Path} {e : SettingsError} :
    IsSought host cwd named root path → host.exists? path = .ok true → FileBreaks host path e →
      LoadBreaks host cwd named root e

/-- Loading settings fails without a refusal where looking for the file or reading it does. -/
theorem load_eq_error_iff (he : ∀ r, e ≠ .refused r) :
    load host cwd named root = .error e ↔ LoadBreaks host cwd named root e := by
  unfold load
  rw [bind_eq_error_iff, locate_eq_error_iff he]
  constructor
  · -- loading fails where the file is looked for, or where it is read
    rintro (h | ⟨found, hfound, h⟩)
    · exact .locate h
    · cases found with
      | none => exact nomatch h
      | some path =>
        obtain ⟨hsought, hexists⟩ := locate_eq_some_iff.1 hfound
        obtain h | ⟨_, _, h⟩ := bind_eq_error_iff.1 h
        · exact .file hsought hexists ((ofFile_eq_error_iff he).1 h)
        · exact nomatch h
  · intro h
    cases h with
    | locate h => exact .inl h
    | @file path _ hsought hexists h =>
      refine .inr ⟨some path, locate_eq_some_iff.2 ⟨hsought, hexists⟩, ?_⟩
      exact bind_eq_error_iff.2 (.inl ((ofFile_eq_error_iff he).2 h))

end Settings

namespace ScanOptions

/-- What is asked of a scan of which nothing is asked but by its settings. -/
def requestOf (s : Settings) : ScanRequest :=
  ({} : CommandLine.ScanCommand).request s

/-- The options of a scan of a root for which nothing is asked but by its settings. -/
def ofSettings (host : Host) (cwd : Path) (named : Option String) (root : String) :
    Except SettingsError ScanOptions := do
  let (_, s) ← Settings.load host cwd named root
  ofRequest host cwd root (requestOf s)

/-- The patterns of settings are texts. -/
private theorem patterns_requestOf (s : Settings) :
    (requestOf s).patterns = .list ((s.patterns.getD []).map .text) := by
  simp [requestOf, CommandLine.ScanCommand.request]

/-- Between the settings of a scan and its options there is no fault without a refusal but those of
the settings file and those of the request for what it says. -/
theorem ofSettings_eq_error_iff (host : Host) (cwd : Path) (named : Option String) (root : String)
    {e : SettingsError} (he : ∀ r, e ≠ .refused r) :
    ofSettings host cwd named root = .error e ↔
      Settings.LoadBreaks host cwd named root e ∨
      ∃ file s, Settings.load host cwd named root = .ok (file, s) ∧
        RequestBreaks host cwd root (requestOf s) e := by
  unfold ofSettings
  rw [bind_eq_error_iff, Settings.load_eq_error_iff he]
  refine or_congr_right ?_
  constructor
  · -- the request made of the settings always holds its patterns as a list
    rintro ⟨⟨file, s⟩, hload, h⟩
    exact ⟨file, s, hload, (ofRequest_eq_error_iff (patterns_requestOf s) he).1 h⟩
  · rintro ⟨file, s, hload, h⟩
    exact ⟨(file, s), hload, (ofRequest_eq_error_iff (patterns_requestOf s) he).2 h⟩

/-- A directory with a settings file that is no text. -/
def binarySettings : FileTree where
  entries := [(".leaksniff.yml", .file ⟨#[0xFF]⟩)]

/-- The fault of a settings file that is no text is none that the user is told about. -/
theorem ofSettings_binarySettings :
    (∀ r, SettingsError.valueless .notUtf8 ≠ .refused r) ∧
      ofSettings binarySettings [] none "." = .error (.valueless .notUtf8) := by
  have hrefused : ∀ r, SettingsError.valueless .notUtf8 ≠ .refused r := by simp
  -- the file is the first of the names, and its one byte is no text
  have hroot : binarySettings.host.resolve [] "." = .ok [] := by cbv
  have hdirectory : binarySettings.host.directoryOf [] = .ok [] := by cbv
  have hexists : binarySettings.host.exists? [".leaksniff.yml"] = .ok true := by cbv
  have hread : binarySettings.host.read [".leaksniff.yml"] = .ok ⟨#[0xFF]⟩ := by cbv
  have hvalue : binarySettings.host.valueOf ⟨#[0xFF]⟩ = .error .notUtf8 := by cbv
  have hsought : Settings.IsSought binarySettings [] none "." [".leaksniff.yml"] :=
    .inDirectory rfl hroot hdirectory (show Settings.fileNames = [] ++ _ from rfl) (by simp)
  exact ⟨hrefused, (ofSettings_eq_error_iff binarySettings [] none "." hrefused).2
    (.inl (.file hsought hexists (.valueless hread hvalue (by simp))))⟩

end ScanOptions

end SecretScan
