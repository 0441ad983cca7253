import SecretScan.Proofs.Except
import SecretScan.ScanOptions

/-!
# Options that were accepted

`ScanOptions.ofRequest` checks a request one value after the other. When it gives options, every
check has passed: `ofRequest_eq_ok` says where each option comes from, and `ofRequest_of_accepted`
that nothing else is asked.
-/

namespace SecretScan.ScanOptions

/-- Where the options of an accepted request come from. -/
structure Accepted (host : Host) (cwd : Path) (root : String) (r : ScanRequest)
    (o : ScanOptions) : Prop where
  root_eq : host.resolve cwd root = .ok o.root
  root_exists : host.exists? o.root = .ok true
  severity_eq : severityOf r.severity = .ok o.severity
  entropyThreshold_eq :
    optional o.severity.entropyFloor r.entropy (numberOf .invalidEntropy) = .ok o.entropyThreshold
  maxFindings_eq :
    optional none r.maxFindings (fun v => some <$> positiveOf .invalidMaxFindings v) =
      .ok o.maxFindings
  maxFileSize_eq :
    optional (Int.ofNat defaultMaxFileSize) r.maxFileSize (positiveOf .invalidMaxFileSize) =
      .ok o.maxFileSize
  ignoreFile_eq :
    (host.directoryOf o.root).mapError .inaccessible >>= (ignoreFileOf host · r.ignoreFile) =
      .ok o.ignoreFile
  suppressions_eq : patternsOf host r.patterns = .ok o.suppressions
  progress_eq : o.progress = r.progress

/-- Options that a request gives have passed every check. -/
theorem ofRequest_eq_ok {host : Host} {cwd : Path} {root : String} {r : ScanRequest}
    {o : ScanOptions} (h : ofRequest host cwd root r = .ok o) : Accepted host cwd root r o := by
  unfold ofRequest at h
  obtain ⟨path, hpath, h⟩ := bind_eq_ok h
  obtain ⟨found, hfound, h⟩ := bind_eq_ok h
  cases found with
  | false => exact nomatch h
  | true =>
    simp only [Bool.not_true, Bool.false_eq_true, if_false] at h
    -- one step after the other, in the order of the checks
    obtain ⟨severity, hseverity, h⟩ := bind_eq_ok h
    obtain ⟨threshold, hthreshold, h⟩ := bind_eq_ok h
    obtain ⟨findings, hfindings, h⟩ := bind_eq_ok h
    obtain ⟨size, hsize, h⟩ := bind_eq_ok h
    obtain ⟨directory, hdirectory, h⟩ := bind_eq_ok h
    obtain ⟨file, hfile, h⟩ := bind_eq_ok h
    obtain ⟨patterns, hpatterns, h⟩ := bind_eq_ok h
    obtain rfl := Except.ok.inj h
    have hroot : host.resolve cwd root = .ok path := mapError_eq_ok_iff.1 hpath
    have hexists : host.exists? path = .ok true := mapError_eq_ok_iff.1 hfound
    refine ⟨hroot, hexists, hseverity, hthreshold, hfindings, hsize, ?_, hpatterns, rfl⟩
    rw [hdirectory, ok_bind, hfile]

/-- A request of which every check passes is accepted. -/
theorem ofRequest_of_accepted {host : Host} {cwd : Path} {root : String} {r : ScanRequest}
    {o : ScanOptions} (h : Accepted host cwd root r o) : ofRequest host cwd root r = .ok o := by
  obtain ⟨hroot, hexists, hseverity, hthreshold, hfindings, hsize, hfile, hpatterns, hprogress⟩ := h
  obtain ⟨directory, hdirectory, hfile⟩ := bind_eq_ok hfile
  unfold ofRequest
  -- the checks are passed one after the other
  rw [hroot, mapError_ok, ok_bind, hexists, mapError_ok, ok_bind]
  simp only [Bool.not_true, Bool.false_eq_true, if_false]
  rw [hseverity, ok_bind, hthreshold, ok_bind, hfindings, ok_bind, hsize, ok_bind, hdirectory,
    ok_bind, hfile, ok_bind, hpatterns, ok_bind, ← hprogress]
  rfl

/-- Reading a known level by its name gives the level. -/
private theorem severityOf_name {s : Severity} (hs : s ∈ Severity.known) :
    severityOf (.text s.name) = .ok s := by
  simp only [Severity.known, List.mem_cons, List.not_mem_nil, or_false] at hs
  obtain rfl | rfl | rfl := hs <;> rfl

/-- An option that is left out is the default. -/
theorem optional_of_not_isGiven {α : Type} {v : Value} (h : isGiven v = false) (default : α)
    (read : Value → Except SettingsError α) : optional default v read = .ok default := by
  have hshowable : v.isShowable = true := by
    cases v with
    | null | text => rfl
    | _ => simp [isGiven] at h
  simp [optional, hshowable, h]

/-- An option that is given is read. -/
theorem optional_of_isGiven {α : Type} {default a : α} {v : Value}
    {read : Value → Except SettingsError α} (hgiven : isGiven v = true)
    (h : optional default v read = .ok a) : read v = .ok a := by
  unfold optional at h
  rw [if_pos hgiven] at h
  split at h
  · exact nomatch h
  · exact h

/-- Where no ignore list is named, the default one is used if it is there. -/
theorem ignoreFile_of_default {host : Host} {root directory : Path} {found : Bool}
    (hdirectory : host.directoryOf root = .ok directory)
    (hdefault : host.exists? (directory ++ [defaultIgnoreName]) = .ok found) :
    (host.directoryOf root).mapError .inaccessible >>= (ignoreFileOf host · .null) =
      .ok (if found then some (directory ++ [defaultIgnoreName]).text else none) := by
  -- without a name it is the default list that is looked for
  rw [hdirectory, mapError_ok, ok_bind]
  unfold ignoreFileOf
  rw [if_pos (by rfl)]
  dsimp only
  rw [hdefault]
  rfl

/-- Where no entropy is given, a request is accepted at every severity if it is at one, with the
same options but for the severity and its entropy floor. -/
theorem Accepted.at_severity {host : Host} {cwd : Path} {root : String} {r : ScanRequest}
    {o : ScanOptions} (h : Accepted host cwd root r o) (hentropy : isGiven r.entropy = false)
    {s : Severity} (hs : s ∈ Severity.known) :
    Accepted host cwd root { r with severity := .text s.name }
      { o with severity := s, entropyThreshold := s.entropyFloor } where
  -- the severity and the threshold it stands for change together; the rest is as before
  root_eq := h.root_eq
  root_exists := h.root_exists
  severity_eq := severityOf_name hs
  entropyThreshold_eq := optional_of_not_isGiven hentropy _ _
  maxFindings_eq := h.maxFindings_eq
  maxFileSize_eq := h.maxFileSize_eq
  ignoreFile_eq := h.ignoreFile_eq
  suppressions_eq := h.suppressions_eq
  progress_eq := h.progress_eq

/-- What is read as a whole number above zero is one. -/
theorem pos_of_positiveOf {refusal : Refusal} {v : Value} {n : Int}
    (h : positiveOf refusal v = .ok n) : 0 < n := by
  unfold positiveOf at h
  obtain ⟨x, _, h⟩ := bind_eq_ok h
  -- a number that is not above zero is refused
  split at h
  · split at h
    · next hf =>
      obtain rfl := Except.ok.inj h
      simp only [Bool.and_eq_true, decide_eq_true_eq] at hf
      exact hf.1
    · exact nomatch h
  · exact nomatch h

/-- A number that is whole and above zero is read. -/
theorem positiveOf_of_number {refusal : Refusal} {v : Value} {x : Float}
    {f : Decimal.BinaryFraction} (hnumber : v.number = .ok x) (hnan : x.isNaN = false)
    (hf : Decimal.BinaryFraction.ofFloat? x = some f) (hpos : 0 < f.truncated)
    (hwhole : f.isWhole = true) : positiveOf refusal v = .ok f.truncated := by
  -- the number is read, and is whole and above zero
  have hread : numberOf refusal v = .ok x := by
    simp only [numberOf, hnumber, hnan, Bool.false_eq_true, if_false]
  rw [positiveOf, hread, ok_bind, hf]
  simp only [hwhole, hpos, decide_true, Bool.and_self, if_true]
  rfl

/-- A scan that was asked for stops after at least one finding, if at all. -/
theorem Accepted.maxFindings_pos {host : Host} {cwd : Path} {root : String} {r : ScanRequest}
    {o : ScanOptions} (h : Accepted host cwd root r o) : ∀ n, o.maxFindings = some n → 0 < n := by
  intro n hn
  -- a limit is either given, and checked, or left out
  have hread := h.maxFindings_eq
  rw [hn] at hread
  cases hgiven : isGiven r.maxFindings with
  | true =>
    obtain ⟨m, hm, hsome⟩ := map_eq_ok (optional_of_isGiven hgiven hread)
    obtain rfl := Option.some.inj hsome
    exact pos_of_positiveOf hm
  | false =>
    rw [optional_of_not_isGiven hgiven] at hread
    exact nomatch Except.ok.inj hread

end SecretScan.ScanOptions
