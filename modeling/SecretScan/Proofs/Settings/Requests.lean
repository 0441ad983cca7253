import Mathlib
import SecretScan.Proofs.Decimal.Exact
import SecretScan.Proofs.Settings.Faults

/-!
# Which requests are accepted

`Takes` says which values an option can have, and `Follows` what the options of a scan have to do
with the values that were asked for. A request is accepted if every option can have its value.
Otherwise it fails for the first that cannot: with a refusal that names the option, unless the value
breaks the check itself.

## Key results

- `positiveOf_eq_ok_iff`: what is read as a whole number above zero
- `fault?_eq_none_iff`: an option has no fault if it can have its value
- `option_of_fault?`: the refusal of a value is about its option
- `ofRequest_outcome`: when a request for an existing root is accepted, and how it fails
-/

namespace SecretScan

/-- Is the value read as this whole number? -/
def Value.IsReadAs (v : Value) (n : Int) : Prop :=
  ∃ x, v.number = .ok x ∧ Decimal.exactValue? x = some (n : ℚ)

/-- What is read as a number can be shown. -/
theorem Value.isShowable_of_number {v : Value} {x : Float} (h : v.number = .ok x) :
    v.isShowable = true := by
  cases v with
  | int n =>
    -- a number that is read is not too long to be shown
    cases hn : Decimal.floatOfInt? n with
    | none => simp [Value.number, hn] at h
    | some y =>
      have hlength : (Decimal.digitsOf n.natAbs).length ≤ Decimal.maxWholeDigits :=
        (Decimal.length_digitsOf_le_of_floatOfInt? hn).trans (by decide)
      simpa [Value.isShowable] using hlength
  | null | list | pair | mapping | set | marked | again => simp [Value.number] at h
  | _ => rfl

namespace ScanOptions

variable {host : Host} {cwd directory start : Path} {root : String} {r : ScanRequest}

/-- The name of an option in refusals. -/
def CheckedOption.name : CheckedOption → String
  | .severity => "severity"
  | .entropy => "entropy"
  | .maxFindings => "max_findings"
  | .maxFileSize => "max_file_size"
  | .ignoreFile => "ignore_file"
  | .patterns => "ignore_regex"

/-- Is a value left out, or read as a whole number above zero? -/
def IsLimit (v : Value) : Prop :=
  v = .null ∨ v = .text "" ∨ ∃ n, 0 < n ∧ v.IsReadAs n

/-- Can an option have a value? If no ignore list is named, it must be told whether the default one
is there; relative names of ignore lists start at a directory, and patterns are given as texts. -/
def Takes (host : Host) (directory : Path) : CheckedOption → Value → Prop
  | .severity, v => v = .null ∨ ∃ name ∈ ["low", "med", "high"], v = .text (.wellFormed name)
  | .entropy, v => v = .null ∨ v = .text "" ∨ ∃ x, v.number = .ok x ∧ x.isNaN = false
  | .maxFindings, v => IsLimit v
  | .maxFileSize, v => IsLimit v
  | .ignoreFile, v =>
    v.isBlank = true ∧ (∃ found, host.exists? (directory ++ [defaultIgnoreName]) = .ok found) ∨
      ∃ name : Text.Wide, v = .text name ∧ name.isEmpty = false ∧
        (Path.isAbsolute name.shown = true ∨ ∃ path, host.resolve directory name = .ok path)
  | .patterns, v =>
    ∃ sources : List Text.Wide, v = .list (sources.map .text) ∧
      ∀ source ∈ sources, ∃ p, host.patternOf source = .ok p

/-- What is left out is nothing, or a text without characters. -/
theorem isGiven_eq_false_iff {v : Value} : isGiven v = false ↔ v = .null ∨ v = .text "" := by
  cases v with
  | text s => cases s <;> simp [isGiven, Text.Wide.isEmpty]
  | _ => simp [isGiven]

/-! ## What the checks let through -/

/-- A severity that is read is the default one, or one of those with the given name. -/
private theorem severityOf_eq_ok {v : Value} {s : Severity} (h : severityOf v = .ok s) :
    v = .null ∧ s = .med ∨ v = .text s.name ∧ s ∈ Severity.known := by
  unfold severityOf at h
  -- nothing is given, or a text that has to be a known name
  split at h
  · exact .inl ⟨rfl, (Except.ok.inj h).symm⟩
  next name =>
    simp only at h
    split at h
    next hknown =>
      obtain rfl := Except.ok.inj h
      exact .inr ⟨by rw [Severity.name_ofName], List.contains_iff_mem.1 hknown⟩
    · exact nomatch h
  · split at h <;> exact nomatch h

/-- A severity can be read from nothing, and from the names of the severities. -/
private theorem exists_severityOf_iff {v : Value} :
    (∃ s, severityOf v = .ok s) ↔
      v = .null ∨ ∃ name ∈ ["low", "med", "high"], v = .text (.wellFormed name) := by
  constructor
  · rintro ⟨s, h⟩
    -- only the three names are known, each without capitals
    refine (severityOf_eq_ok h).imp And.left ?_
    rintro ⟨hname, hs⟩
    simp only [Severity.known, List.mem_cons, List.not_mem_nil, or_false] at hs
    obtain rfl | rfl | rfl := hs
    all_goals exact ⟨_, by decide, hname⟩
  · rintro (rfl | ⟨name, hname, rfl⟩)
    · exact ⟨_, rfl⟩
    · simp only [List.mem_cons, List.not_mem_nil, or_false] at hname
      obtain rfl | rfl | rfl := hname
      · exact ⟨.low, rfl⟩
      · exact ⟨.med, rfl⟩
      · exact ⟨.high, rfl⟩

/-- What is read as a number: any value that stands for one which is a number at all. -/
theorem numberOf_eq_ok_iff {refusal : Refusal} {v : Value} {x : Float} :
    numberOf refusal v = .ok x ↔ v.number = .ok x ∧ x.isNaN = false := by
  unfold numberOf
  -- a number that is not a number is refused, and any other is the value
  split
  next y hy =>
    rw [hy]
    cases hnan : y.isNaN with
    | true =>
      simp only [if_true, reduceCtorEq, Except.ok.injEq, false_iff, not_and]
      rintro rfl hnan'
      exact nomatch hnan.symm.trans hnan'
    | false =>
      simp only [Bool.false_eq_true, if_false, Except.ok.injEq, iff_self_and]
      rintro rfl
      exact hnan
  all_goals simp [*]

/-- What is read as a whole number above zero. -/
theorem positiveOf_eq_ok_iff {refusal : Refusal} {v : Value} {n : Int} :
    positiveOf refusal v = .ok n ↔ 0 < n ∧ v.IsReadAs n := by
  constructor
  · -- a positive limit is a whole float, and its exact value is what the numeral says
    intro h
    refine ⟨pos_of_positiveOf h, ?_⟩
    obtain ⟨x, hx, h⟩ := bind_eq_ok h
    refine ⟨x, (numberOf_eq_ok_iff.1 hx).1, ?_⟩
    split at h
    next f hf =>
      split at h
      next hwhole =>
        obtain rfl := Except.ok.inj h
        simp only [Bool.and_eq_true] at hwhole
        rw [Decimal.exactValue?_eq, hf, Option.map_some,
          (f.value_eq_intCast_iff _).2 ⟨hwhole.2, rfl⟩]
      · exact nomatch h
    · exact nomatch h
  · rintro ⟨hpos, x, hx, hvalue⟩
    have hnan : x.isNaN = false := Decimal.isNaN_eq_false_of_exactValue? hvalue
    rw [Decimal.exactValue?_eq] at hvalue
    obtain ⟨f, hf, hn⟩ := Option.map_eq_some_iff.1 hvalue
    obtain ⟨hwhole, rfl⟩ := (f.value_eq_intCast_iff n).1 hn
    exact positiveOf_of_number hx hnan hf hpos hwhole

/-- An ignore list can be named in two ways, or be the default one. -/
private theorem exists_ignoreFileOf_iff {v : Value} :
    (∃ name, ignoreFileOf host directory v = .ok name) ↔ Takes host directory .ignoreFile v := by
  unfold ignoreFileOf
  simp only [Takes]
  cases hblank : v.isBlank with
  | true =>
    -- a name is no empty text
    have hname : ¬ ∃ name : Text.Wide, v = .text name ∧ name.isEmpty = false ∧
        (Path.isAbsolute name.shown = true ∨ ∃ path, host.resolve directory name = .ok path) := by
      rintro ⟨name, rfl, hempty, -⟩
      exact nomatch hempty.symm.trans hblank
    rw [or_iff_left hname]
    cases host.exists? (directory ++ [defaultIgnoreName]) <;> simp
  | false =>
    cases v with
    | text name =>
      have hempty : name.isEmpty = false := hblank
      cases habsolute : Path.isAbsolute name.shown with
      | true => simp [hempty, habsolute]
      | false => cases hresolve : host.resolve directory name <;> simp [hempty, habsolute, hresolve]
    | _ => simp

/-- Patterns are read one by one. -/
private theorem patternsOf_eq_ok_iff {sources : List Text.Wide} {ps : List Pattern} :
    patternsOf host (.list (sources.map .text)) = .ok ps ↔
      List.Forall₂ (fun source p => host.patternOf source = .ok p) sources ps := by
  rw [patternsOf_texts, mapM_eq_ok_iff, List.forall₂_map_left_iff]
  simp only [patternOf_eq_ok_iff]

/-- Patterns can be read if each of them can. -/
private theorem exists_patternsOf_iff {sources : List Text.Wide} :
    -- every source is parsed, so that one that cannot be stops them all
    (∃ ps, patternsOf host (.list (sources.map .text)) = .ok ps) ↔
      Takes host directory .patterns (.list (sources.map .text)) := by
  constructor
  · rintro ⟨ps, hps⟩
    refine ⟨sources, rfl, fun source hsource => ?_⟩
    obtain ⟨p, hp⟩ := exists_eq_ok_of_mapM hps (.text source) (List.mem_map_of_mem hsource)
    exact ⟨p, patternOf_eq_ok_iff.1 hp⟩
  · rintro ⟨sources', heq, hsources⟩
    rw [heq]
    refine exists_mapM_eq_ok fun v hv => ?_
    obtain ⟨source, hsource, rfl⟩ := List.mem_map.1 hv
    obtain ⟨p, hp⟩ := hsources source hsource
    exact ⟨p, patternOf_eq_ok_iff.2 hp⟩

/-! ## Options without a fault -/

/-- An option that may be left out has no fault if it is left out, or read as a number. -/
private theorem faultOf_optional_eq_none_iff {α : Type} {default : α} {v : Value}
    {read : Value → Except SettingsError α}
    (hread : ∀ a, read v = .ok a → ∃ x, v.number = .ok x) :
    faultOf (optional default v read) = none ↔
      v = .null ∨ v = .text "" ∨ ∃ a, read v = .ok a := by
  -- a value left out takes the default, and a value given has to be read
  rw [faultOf_optional, ← or_assoc, ← isGiven_eq_false_iff, ← faultOf_eq_none_iff]
  cases hgiven : isGiven v with
  | false =>
    have hshowable : v.isShowable = true := by
      obtain rfl | rfl := isGiven_eq_false_iff.1 hgiven <;> rfl
    simp [hshowable]
  | true =>
    cases hshowable : v.isShowable with
    | true => simp
    | false =>
      simp only [Bool.not_false, if_true, reduceCtorEq, Bool.true_eq_false, false_or, false_iff]
      intro h
      obtain ⟨a, ha⟩ := faultOf_eq_none_iff.1 h
      obtain ⟨x, hx⟩ := hread a ha
      exact nomatch hshowable.symm.trans (Value.isShowable_of_number hx)

/-- An option has no fault if it can have its value. -/
theorem fault?_eq_none_iff {sources : List Text.Wide}
    (hpatterns : r.patterns = .list (sources.map .text)) {o : CheckedOption} :
    fault? host directory o (o.valueIn r) = none ↔ Takes host directory o (o.valueIn r) := by
  -- both limits are checked by one definition, with the refusal of each
  have hlimit : ∀ {refusal : Refusal} {v : Value} {default : Int},
      faultOf (optional default v (positiveOf refusal)) = none ↔ IsLimit v := by
    intro refusal v default
    rw [faultOf_optional_eq_none_iff]
    · simp only [positiveOf_eq_ok_iff]
      rfl
    · intro n hn
      obtain ⟨-, x, hx, -⟩ := positiveOf_eq_ok_iff.1 hn
      exact ⟨x, hx⟩
  cases o with
  | severity => exact faultOf_eq_none_iff.trans exists_severityOf_iff
  | entropy =>
    unfold fault?
    rw [faultOf_optional_eq_none_iff]
    · simp only [numberOf_eq_ok_iff]
      rfl
    · exact fun x hx => ⟨x, (numberOf_eq_ok_iff.1 hx).1⟩
  | maxFindings => exact hlimit
  | maxFileSize => exact hlimit
  | ignoreFile => exact faultOf_eq_none_iff.trans exists_ignoreFileOf_iff
  | patterns =>
    have hvalue : CheckedOption.patterns.valueIn r = .list (sources.map .text) := hpatterns
    rw [hvalue]
    exact faultOf_eq_none_iff.trans exists_patternsOf_iff

/-! ## Refusals of options -/

/-- A value that is no number is refused as it was said to be. -/
private theorem eq_of_numberOf_eq_refused {refusal refusal' : Refusal} {v : Value}
    (h : numberOf refusal v = .error (.refused refusal')) : refusal' = refusal := by
  unfold numberOf at h
  -- each refusal here is the one that was handed in
  split at h
  · split at h
    · exact (SettingsError.refused.inj (Except.error.inj h)).symm
    · exact nomatch h
  · exact (SettingsError.refused.inj (Except.error.inj h)).symm
  · exact nomatch h

/-- A value that is no whole number above zero is refused as it was said to be. -/
private theorem eq_of_positiveOf_eq_refused {refusal refusal' : Refusal} {v : Value}
    (h : positiveOf refusal v = .error (.refused refusal')) : refusal' = refusal := by
  obtain h | ⟨x, -, h⟩ := bind_eq_error_iff.1 h
  · exact eq_of_numberOf_eq_refused h
  · -- either the number is refused, or what it is
    split at h
    · split at h
      · exact nomatch h
      · exact (SettingsError.refused.inj (Except.error.inj h)).symm
    · exact (SettingsError.refused.inj (Except.error.inj h)).symm

/-- An option that is refused was given, and read. -/
theorem eq_refused_of_optional {α : Type} {default : α} {v : Value}
    {read : Value → Except SettingsError α} {refusal : Refusal}
    (h : faultOf (optional default v read) = some (.refused refusal)) :
    read v = .error (.refused refusal) := by
  rw [faultOf_optional] at h
  -- nothing is refused before it is read
  split at h
  · exact nomatch h
  · split at h
    · exact faultOf_eq_some_iff.1 h
    · exact nomatch h

/-- The refusal of a severity shows its value. -/
private theorem eq_of_severityOf_eq_refused {v : Value} {refusal : Refusal}
    (h : severityOf v = .error (.refused refusal)) : refusal = .invalidSeverity v := by
  unfold severityOf at h
  -- a name and any other value are refused alike
  split at h
  · exact nomatch h
  · simp only at h
    split at h
    · exact nomatch h
    · exact (SettingsError.refused.inj (Except.error.inj h)).symm
  · split at h
    · exact (SettingsError.refused.inj (Except.error.inj h)).symm
    · exact nomatch h

/-- A name of an ignore list is never refused. -/
private theorem ignoreFileOf_ne_refused {v : Value} {refusal : Refusal} :
    ignoreFileOf host directory v ≠ .error (.refused refusal) :=
  fun h => (ignoreFileOf_eq_error_iff.1 h).ne_refused refusal rfl

/-- The refusal of a pattern shows it. -/
private theorem eq_of_patternOf_eq_refused {source : Text.Wide} {refusal : Refusal}
    (h : patternOf host (.text source) = .error (.refused refusal)) :
    ∃ e, refusal = .invalidPattern source e := by
  cases hparse : host.patternOf source with
  | ok p => simp [patternOf, hparse] at h
  | error e => cases e <;> simp [patternOf, hparse] at h; exact ⟨_, h.symm⟩

/-- The refusal of a value is about its option. -/
theorem option_of_fault? {sources : List Text.Wide}
    (hpatterns : r.patterns = .list (sources.map .text)) {o : CheckedOption} {refusal : Refusal}
    (h : fault? host directory o (o.valueIn r) = some (.refused refusal)) :
    refusal.option = some o.name := by
  -- one check for each option, and each refuses in the name of its own
  cases o with
  | severity => rw [eq_of_severityOf_eq_refused (faultOf_eq_some_iff.1 h)]; rfl
  | entropy => rw [eq_of_numberOf_eq_refused (eq_refused_of_optional h)]; rfl
  | maxFindings => rw [eq_of_positiveOf_eq_refused (eq_refused_of_optional h)]; rfl
  | maxFileSize => rw [eq_of_positiveOf_eq_refused (eq_refused_of_optional h)]; rfl
  | ignoreFile => exact absurd (faultOf_eq_some_iff.1 h) ignoreFileOf_ne_refused
  | patterns =>
    have hvalue : CheckedOption.patterns.valueIn r = .list (sources.map .text) := hpatterns
    rw [hvalue] at h
    obtain ⟨before, v, after, hsplit, -, hv⟩ := mapM_eq_error_iff.1 (faultOf_eq_some_iff.1 h)
    obtain ⟨source, -, rfl⟩ := List.mem_map.1 (hsplit ▸ by simp : v ∈ sources.map Value.text)
    obtain ⟨e, rfl⟩ := eq_of_patternOf_eq_refused hv
    rfl

/-! ## Requests -/

/-- What the options of an accepted request have to do with the values that were asked for. -/
structure Follows (host : Host) (r : ScanRequest) (sources : List Text.Wide) (o : ScanOptions) :
    Prop where
  severity_eq : r.severity = .null ∧ o.severity = .med ∨ r.severity = .text o.severity.name
  entropyThreshold_of_given :
    isGiven r.entropy = true → r.entropy.number = .ok o.entropyThreshold
  entropyThreshold_of_not_given :
    isGiven r.entropy = false → o.entropyThreshold = o.severity.entropyFloor
  maxFindings_of_given :
    isGiven r.maxFindings = true → ∃ n, o.maxFindings = some n ∧ 1 ≤ n ∧ r.maxFindings.IsReadAs n
  maxFindings_of_not_given : isGiven r.maxFindings = false → o.maxFindings = none
  maxFileSize_of_given : isGiven r.maxFileSize = true → r.maxFileSize.IsReadAs o.maxFileSize
  maxFileSize_of_not_given :
    isGiven r.maxFileSize = false → o.maxFileSize = Int.ofNat defaultMaxFileSize
  maxFileSize_pos : 1 ≤ o.maxFileSize
  /-- The patterns are those that were given, in their order. -/
  suppressions_eq :
    List.Forall₂ (fun source p => host.patternOf source = .ok p) sources o.suppressions

/-- The options of an accepted request follow from the values that were asked for. -/
private theorem follows_of_accepted {sources : List Text.Wide}
    (hpatterns : r.patterns = .list (sources.map .text)) {o : ScanOptions}
    (h : Accepted host cwd root r o) : Follows host r sources o where
  -- a field that was left out has the default, by the check of that option
  severity_eq := (severityOf_eq_ok h.severity_eq).imp_right And.left
  entropyThreshold_of_given hgiven :=
    (numberOf_eq_ok_iff.1 (optional_of_isGiven hgiven h.entropyThreshold_eq)).1
  entropyThreshold_of_not_given hgiven :=
    (Except.ok.inj ((optional_of_not_isGiven hgiven _ _).symm.trans h.entropyThreshold_eq)).symm
  maxFindings_of_given hgiven := by
    obtain ⟨n, hread, hn⟩ := map_eq_ok (optional_of_isGiven hgiven h.maxFindings_eq)
    obtain ⟨hpos, hreads⟩ := positiveOf_eq_ok_iff.1 hread
    exact ⟨n, hn.symm, hpos, hreads⟩
  maxFindings_of_not_given hgiven :=
    (Except.ok.inj ((optional_of_not_isGiven hgiven _ _).symm.trans h.maxFindings_eq)).symm
  maxFileSize_of_given hgiven :=
    (positiveOf_eq_ok_iff.1 (optional_of_isGiven hgiven h.maxFileSize_eq)).2
  maxFileSize_of_not_given hgiven :=
    (Except.ok.inj ((optional_of_not_isGiven hgiven _ _).symm.trans h.maxFileSize_eq)).symm
  maxFileSize_pos := by
    have hsize := h.maxFileSize_eq
    cases hgiven : isGiven r.maxFileSize with
    | true => exact pos_of_positiveOf (optional_of_isGiven hgiven hsize)
    | false =>
      rw [optional_of_not_isGiven hgiven] at hsize
      rw [← Except.ok.inj hsize]
      decide
  suppressions_eq := patternsOf_eq_ok_iff.1 (hpatterns ▸ h.suppressions_eq)

/-- How a request fails for an option: as its value breaks the check, or else with a refusal that is
about the option. -/
structure FailsFor (host : Host) (directory : Path) (r : ScanRequest) (o : CheckedOption)
    (outcome : Except SettingsError ScanOptions) : Prop where
  of_breaks : ∀ e, Breaks host directory o (o.valueIn r) e → outcome = .error e
  of_not_breaks : (∀ e, ¬ Breaks host directory o (o.valueIn r) e) →
    ∃ refusal, outcome = .error (.refused refusal) ∧ refusal.option = some o.name

/-- A request that fails with the fault of an option fails for the option. -/
private theorem failsFor_of_fault? {sources : List Text.Wide}
    (hpatterns : r.patterns = .list (sources.map .text)) {o : CheckedOption}
    {outcome : Except SettingsError ScanOptions} {e : SettingsError}
    (hfault : fault? host directory o (o.valueIn r) = some e) (houtcome : outcome = .error e) :
    FailsFor host directory r o outcome where
  of_breaks e' he' := by
    -- the fault is the only one that the check can end with
    have hfault' := (fault?_eq_some_iff hpatterns he'.ne_refused).2 he'
    obtain rfl := Option.some.inj (hfault.symm.trans hfault')
    exact houtcome
  of_not_breaks hbreaks := by
    -- what is no refusal would break the check
    cases e with
    | refused refusal => exact ⟨refusal, houtcome, option_of_fault? hpatterns hfault⟩
    | _ => exact absurd ((fault?_eq_some_iff hpatterns (by simp)).1 hfault) (hbreaks _)

/-- A request for an existing root is accepted if every option can have its value, and its options
follow from the values. Otherwise it fails for the first option that cannot. -/
theorem ofRequest_outcome (hroot : host.resolve cwd root = .ok start)
    (hexists : host.exists? start = .ok true) {sources : List Text.Wide}
    (hpatterns : r.patterns = .list (sources.map .text)) :
    ∃ directory, host.directoryOf start = .ok directory ∧
      ((∃ o, ofRequest host cwd root r = .ok o) ↔
        ∀ o ∈ CheckedOption.all, Takes host directory o (o.valueIn r)) ∧
      (∀ o, ofRequest host cwd root r = .ok o → Follows host r sources o) ∧
      ∀ before o after, CheckedOption.all = before ++ o :: after →
        (∀ p ∈ before, Takes host directory p (p.valueIn r)) →
        ¬ Takes host directory o (o.valueIn r) →
        FailsFor host directory r o (ofRequest host cwd root r) := by
  obtain ⟨directory, hdirectory⟩ := Host.exists_directoryOf hexists
  have hfault := faultOf_ofRequest (r := r) hroot hexists hdirectory
  refine ⟨directory, hdirectory, ?_, ?_, ?_⟩
  · rw [← faultOf_eq_none_iff, hfault, List.findSome?_eq_none_iff]
    simp only [fault?_eq_none_iff hpatterns]
  · -- every option passes its check exactly if none is found at fault
    intro o ho
    exact follows_of_accepted hpatterns (ofRequest_eq_ok ho)
  · intro before o after hsplit hbefore ho
    obtain ⟨e, he⟩ := Option.ne_none_iff_exists'.1 (mt (fault?_eq_none_iff hpatterns).1 ho)
    -- the first option that is not taken is where the check stops
    refine failsFor_of_fault? hpatterns he (faultOf_eq_some_iff.1 ?_)
    rw [hfault]
    exact List.findSome?_eq_some_iff.2
      ⟨before, o, after, hsplit, he, fun p hp => (fault?_eq_none_iff hpatterns).2 (hbefore p hp)⟩

/-- A directory with a file. -/
def oneFile : FileTree where
  entries := [("a.py", .file ⟨#[97]⟩)]

/-- A request with limits, one as a number and one as a numeral, and with patterns. -/
def limitedRequest (sources : List Text.Wide) : ScanRequest where
  severity := .text "high"
  entropy := .text ""
  maxFindings := .int 3
  maxFileSize := .text "2"
  patterns := .list (sources.map .text)

/-- The limits of the request can be read. -/
private theorem takes_limitedRequest (sources : List Text.Wide) :
    ∀ o ∈ [CheckedOption.severity, .entropy, .maxFindings, .maxFileSize, .ignoreFile],
      Takes oneFile [] o (o.valueIn (limitedRequest sources)) := by
  -- three is the whole float 3, and "2" the whole float 2
  have hthree : positiveOf .invalidMaxFindings (.int 3) = .ok 3 := by
    have hread : Decimal.floatOfInt? 3 = some 3 := by decide +kernel
    have hfraction : Decimal.BinaryFraction.ofFloat? 3 = some ⟨false, 3 * 2 ^ 51, -51⟩ := by
      decide +kernel
    exact positiveOf_of_number (by simp only [Value.number, hread]) (by decide +kernel) hfraction
      (by decide) (by decide)
  have htwo : positiveOf .invalidMaxFileSize (.text "2") = .ok 2 := by
    have hread : Decimal.readNumber? ("2" : String).toList = some 2 := by decide +kernel
    have hfraction : Decimal.BinaryFraction.ofFloat? 2 = some ⟨false, 2 ^ 52, -51⟩ := by
      decide +kernel
    exact positiveOf_of_number (by simp only [Value.number, hread]) (by decide +kernel) hfraction
      (by decide) (by decide)
  have hdefault : oneFile.host.exists? ([] ++ [defaultIgnoreName]) = .ok false := by cbv
  simp only [List.forall_mem_cons]
  refine ⟨.inr ⟨"high", by simp, rfl⟩, .inr (.inl rfl), ?_, ?_, .inl ⟨rfl, false, hdefault⟩,
    by simp⟩
  · exact .inr (.inr ⟨3, positiveOf_eq_ok_iff.1 hthree⟩)
  · exact .inr (.inr ⟨2, positiveOf_eq_ok_iff.1 htwo⟩)

/-- With a pattern that can be used the request is accepted. With one that is well-formed but
repeats a letter too often it is not even refused. -/
theorem ofRequest_limitedRequest :
    (oneFile.host.resolve [] "." = .ok [] ∧ oneFile.host.exists? [] = .ok true ∧
      ∀ sources, (limitedRequest sources).patterns = .list (sources.map .text)) ∧
    (∃ o, ofRequest oneFile [] "." (limitedRequest ["a"]) = .ok o ∧
      Follows oneFile (limitedRequest ["a"]) ["a"] o) ∧
    ofRequest oneFile [] "." (limitedRequest ["a", "a\x7b99999999999\x7d"]) =
      .error (.unusablePattern .repetitionTooLarge) := by
  have hroot : oneFile.host.resolve [] "." = .ok [] := by cbv
  have hexists : oneFile.host.exists? [] = .ok true := by cbv
  have hdirectory : oneFile.host.directoryOf [] = .ok [] := by cbv
  -- the pattern of one letter parses, and the endless repetition does not
  have hletter : ∃ p, oneFile.host.patternOf "a" = .ok p := by
    have hsome : (Pattern.parse "a").toOption.isSome = true := by decide +kernel
    cases hparse : Pattern.parse "a" with
    | ok p => exact ⟨p, hparse⟩
    | error e => simp [hparse, Except.toOption] at hsome
  have hendless : oneFile.host.patternOf "a\x7b99999999999\x7d" = .error .repetitionTooLarge := by
    cbv
  refine ⟨⟨hroot, hexists, fun _ => rfl⟩, ?_, ?_⟩
  · -- every option of the first request is taken
    obtain ⟨directory, hdirectory', haccepted, hfollows, -⟩ :=
      ofRequest_outcome hroot hexists (r := limitedRequest ["a"]) rfl
    obtain rfl := Except.ok.inj (hdirectory.symm.trans hdirectory')
    obtain ⟨o, ho⟩ := haccepted.2 <| by
      intro o ho
      obtain rfl | ho : o = .patterns ∨ o ∈ [CheckedOption.severity, .entropy, .maxFindings,
          .maxFileSize, .ignoreFile] := by
        cases o <;> simp
      · exact ⟨["a"], rfl, by simpa using hletter⟩
      · exact takes_limitedRequest _ o ho
    exact ⟨o, ho, hfollows o ho⟩
  · -- in the second request the patterns are the first option that is not taken
    obtain ⟨directory, hdirectory', -, -, hfails⟩ := ofRequest_outcome hroot hexists
      (r := limitedRequest ["a", "a\x7b99999999999\x7d"]) rfl
    obtain rfl := Except.ok.inj (hdirectory.symm.trans hdirectory')
    refine (hfails [.severity, .entropy, .maxFindings, .maxFileSize, .ignoreFile] .patterns [] rfl
      (takes_limitedRequest _) ?_).of_breaks _ ?_
    · rintro ⟨sources, heq, hsources⟩
      have hsame : sources = ["a", "a\x7b99999999999\x7d"] := by
        have hinjective : Function.Injective Value.text := fun _ _ h => Value.text.inj h
        exact (hinjective.list_map (Value.list.inj heq)).symm
      obtain ⟨p, hp⟩ := hsources "a\x7b99999999999\x7d" (by rw [hsame]; simp)
      cases hendless.symm.trans hp
    · have hbreaks : Breaks oneFile [] .patterns
          (.list ((["a"] ++ "a\x7b99999999999\x7d" :: []).map .text))
          (.unusablePattern .repetitionTooLarge) :=
        .unusablePattern (by simpa using hletter) hendless (by simp)
      exact hbreaks

end ScanOptions

end SecretScan
