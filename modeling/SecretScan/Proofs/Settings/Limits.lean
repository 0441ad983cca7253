import SecretScan.Proofs.Decimal.Nearest
import SecretScan.Proofs.Decimal.Numerals
import SecretScan.Proofs.Settings.Requests

/-!
# Limits that are whole numbers

A limit is asked for as a whole number or as its numeral. Both are read as the floating-point number
that is nearest, so that a limit beyond `2 ^ 53` may be rounded, and one beyond all floating-point
numbers is no limit at all.

## Key results

- `isReadAs_of_mem_formsOf`: what a whole number is read as, in either form
- `ofRequest_ask`: a request is checked with what is read for the limit
- `ofRequest_wholeLimit`: what becomes of a limit that is a whole number
-/

namespace SecretScan.ScanOptions

/-- The options that are whole numbers above zero. -/
inductive Limit where
  | findings
  | fileSize
  deriving DecidableEq, Repr

namespace Limit

/-- Asks for a value of the limit. -/
def ask (l : Limit) (v : Value) (r : ScanRequest) : ScanRequest :=
  match l with
  | .findings => { r with maxFindings := v }
  | .fileSize => { r with maxFileSize := v }

/-- Sets the limit. -/
def put (l : Limit) (n : Int) (o : ScanOptions) : ScanOptions :=
  match l with
  | .findings => { o with maxFindings := some n }
  | .fileSize => { o with maxFileSize := n }

/-- The refusal of a value that is no such limit. -/
def refusal : Limit → Refusal
  | .findings => .invalidMaxFindings
  | .fileSize => .invalidMaxFileSize

end Limit

/-- The forms in which a whole number is asked for. -/
def formsOf (n : Nat) : List Value :=
  [.int n, .text (toString n)]

/-- A whole number is one of the forms of a limit. -/
theorem int_mem_formsOf (n : Nat) : .int n ∈ formsOf n :=
  List.mem_cons_self

/-- The numeral of a whole number is one of the forms of a limit. -/
theorem numeral_mem_formsOf (n : Nat) : .text (toString n) ∈ formsOf n :=
  List.mem_cons_of_mem _ List.mem_cons_self

/-! ## Reading the forms -/

/-- A numeral is read as a float at once. -/
private theorem number_numeral (n : Nat) :
    (Value.text (toString n)).number = .ok (Decimal.toFloat n 0) := by
  have hdigits : (toString n).toList = Decimal.digitsOf n := by
    rw [Nat.toString_eq_ofList_toDigits, String.toList_ofList, Decimal.digitsOf]
  rw [Value.number, hdigits, Decimal.readNumber?_digitsOf]

/-- All forms of a limit are read as the same float. -/
private theorem number_of_mem_formsOf {n : Nat} {v : Value} (hv : v ∈ formsOf n)
    (hfinite : (Decimal.toFloat n 0).isInf = false) : v.number = .ok (Decimal.toFloat n 0) := by
  simp only [formsOf, List.mem_cons, List.not_mem_nil, or_false] at hv
  obtain rfl | rfl := hv
  · have hsign : ¬ (n : Int) < 0 := by omega
    simp [Value.number, Decimal.floatOfInt?, hfinite, hsign]
  · exact number_numeral n

/-- A whole number is read as the floating-point number that is nearest. -/
theorem isReadAs_of_mem_formsOf {n : Nat} (hn : 0 < n) (hlimit : n < 2 ^ 1024 - 2 ^ 970)
    {v : Value} (hv : v ∈ formsOf n) : v.IsReadAs (Decimal.nearestWhole n) := by
  have hvalue := Decimal.exactValue?_toFloat hn hlimit
  exact ⟨_, number_of_mem_formsOf hv (Decimal.isInf_eq_false_of_exactValue? hvalue), hvalue⟩

/-- A limit within the range of floats can be shown in every form. -/
private theorem isShowable_of_mem_formsOf {n : Nat} (hn : 0 < n) (hlimit : n < 2 ^ 1024 - 2 ^ 970)
    {v : Value} (hv : v ∈ formsOf n) : v.isShowable = true := by
  obtain ⟨x, hx, -⟩ := isReadAs_of_mem_formsOf hn hlimit hv
  exact Value.isShowable_of_number hx

/-- Every form of a limit is taken as the double nearest to it. -/
theorem positiveOf_of_mem_formsOf {refusal : Refusal} {n : Nat} (hn : 0 < n)
    (hlimit : n < 2 ^ 1024 - 2 ^ 970) {v : Value} (hv : v ∈ formsOf n) :
    positiveOf refusal v = .ok (Decimal.nearestWhole n) := by
  have hpos : 0 < (Decimal.nearestWhole n : Int) := by
    exact_mod_cast Decimal.nearestWhole_pos hn
  exact positiveOf_eq_ok_iff.2 ⟨hpos, isReadAs_of_mem_formsOf hn hlimit hv⟩

/-- The numeral of a whole number that is too large is refused. -/
private theorem positiveOf_numeral_of_large {refusal : Refusal} {n : Nat}
    (hn : 2 ^ 1024 - 2 ^ 970 ≤ n) :
    positiveOf refusal (.text (toString n)) = .error (.refused refusal) := by
  have hinf := Decimal.isInf_toFloat hn
  -- beyond the largest float there is no exact value to take a limit from
  have hvalue : Decimal.BinaryFraction.ofFloat? (Decimal.toFloat n 0) = none := by
    rw [← Option.map_eq_none_iff (f := Decimal.BinaryFraction.value), ← Decimal.exactValue?_eq,
      Option.eq_none_iff_forall_ne_some]
    intro a ha
    exact nomatch hinf.symm.trans (Decimal.isInf_eq_false_of_exactValue? ha)
  unfold positiveOf numberOf
  rw [number_numeral]
  dsimp only
  split
  · rfl
  · rw [ok_bind, hvalue]
    rfl

/-- No form of a limit counts as not given. -/
theorem isGiven_of_mem_formsOf {n : Nat} {v : Value} (hv : v ∈ formsOf n) : isGiven v = true := by
  simp only [formsOf, List.mem_cons, List.not_mem_nil, or_false] at hv
  obtain rfl | rfl := hv
  · rfl
  · rw [← Bool.not_eq_false, isGiven_eq_false_iff]
    simp

/-! ## Requests with a limit -/

/-- A limit that is given is read. -/
theorem optional_eq_of_isGiven {α : Type} {default : α} {v : Value}
    {read : Value → Except SettingsError α} (hgiven : isGiven v = true)
    (hshowable : v.isShowable = true) : optional default v read = read v := by
  simp [optional, hgiven, hshowable]

variable {host : Host} {cwd : Path} {root : String} {r : ScanRequest}

/-- A request is checked with what is read for the limit. -/
theorem ofRequest_ask {l : Limit} {o : ScanOptions} {v : Value}
    (h : ofRequest host cwd root (l.ask .null r) = .ok o) (hgiven : isGiven v = true)
    (hshowable : v.isShowable = true) :
    ofRequest host cwd root (l.ask v r) = (l.put · o) <$> positiveOf l.refusal v := by
  obtain ⟨hroot, hexists, hseverity, hthreshold, hfindings, hsize, hfile, hpatterns, hprogress⟩ :=
    ofRequest_eq_ok h
  obtain ⟨directory, hdirectory, hfile⟩ := bind_eq_ok hfile
  have hdirectory := mapError_eq_ok_iff.1 hdirectory
  unfold ofRequest
  -- the two limits are read alike and kept in different fields
  cases l with
  | findings =>
    simp only [Limit.ask, Limit.put, Limit.refusal] at *
    simp only [hroot, Except.mapError, hexists, Bool.not_true, Bool.false_eq_true, if_false,
      hseverity, bind, Except.bind, hthreshold, optional_eq_of_isGiven hgiven hshowable, hsize,
      hdirectory, hfile, hpatterns, hprogress]
    cases positiveOf .invalidMaxFindings v <;> rfl
  | fileSize =>
    simp only [Limit.ask, Limit.put, Limit.refusal] at *
    simp only [hroot, Except.mapError, hexists, Bool.not_true, Bool.false_eq_true, if_false,
      hseverity, bind, Except.bind, hthreshold, hfindings, optional_eq_of_isGiven hgiven hshowable,
      hdirectory, hfile, hpatterns, hprogress]
    cases positiveOf .invalidMaxFileSize v <;> rfl

/-- Values that are read alike are checked alike. -/
private theorem ofRequest_ask_congr {l : Limit} {v v' : Value}
    (hgiven : isGiven v = true) (hgiven' : isGiven v' = true) (hshowable : v.isShowable = true)
    (hshowable' : v'.isShowable = true) (hread : positiveOf l.refusal v = positiveOf l.refusal v') :
    ofRequest host cwd root (l.ask v r) = ofRequest host cwd root (l.ask v' r) := by
  unfold ofRequest
  cases l <;> simp only [Limit.ask, Limit.refusal] at * <;>
    simp only [optional_eq_of_isGiven hgiven hshowable, optional_eq_of_isGiven hgiven' hshowable',
      hread]

/-- What a whole number is read as can be asked for. -/
private theorem ofRequest_ask_of_mem_formsOf {l : Limit} {o : ScanOptions} {n : Nat} (hn : 0 < n)
    (hlimit : n < 2 ^ 1024 - 2 ^ 970) (h : ofRequest host cwd root (l.ask .null r) = .ok o)
    {v : Value} (hv : v ∈ formsOf n) :
    ofRequest host cwd root (l.ask v r) = .ok (l.put (Decimal.nearestWhole n) o) := by
  rw [ofRequest_ask h (isGiven_of_mem_formsOf hv) (isShowable_of_mem_formsOf hn hlimit hv),
    positiveOf_of_mem_formsOf hn hlimit hv]
  rfl

/-- A numeral beyond the range of floats is refused, whatever else is asked for. -/
private theorem ofRequest_ask_numeral_of_large {l : Limit} {o : ScanOptions} {n : Nat}
    (hn : 2 ^ 1024 - 2 ^ 970 ≤ n) (h : ofRequest host cwd root (l.ask .null r) = .ok o) :
    ofRequest host cwd root (l.ask (.text (toString n)) r) = .error (.refused l.refusal) := by
  rw [ofRequest_ask h (isGiven_of_mem_formsOf (numeral_mem_formsOf n)) rfl,
    positiveOf_numeral_of_large hn]
  rfl

/-- A limit that is a whole number is the floating-point number that is nearest, in whichever form
it is asked for. Up to `2 ^ 53` it is the number itself, and beyond only if that is a floating-point
number. The numeral of a number that is too large is refused. -/
theorem ofRequest_wholeLimit (host : Host) (cwd : Path) (root : String) (r : ScanRequest)
    (l : Limit) {n : Nat} (hn : 0 < n) :
    (n < 2 ^ 1024 - 2 ^ 970 →
      (∀ o, ofRequest host cwd root (l.ask .null r) = .ok o → ∀ v ∈ formsOf n,
        ofRequest host cwd root (l.ask v r) = .ok (l.put (Decimal.nearestWhole n) o)) ∧
      ofRequest host cwd root (l.ask (.int n) r) =
        ofRequest host cwd root (l.ask (.text (toString n)) r) ∧
      Decimal.IsNearest (Decimal.nearestWhole n) n ∧
      (Decimal.nearestWhole n = n ↔ ∃ x, Decimal.exactValue? x = some (n : ℚ)) ∧
      (n ≤ 2 ^ 53 → Decimal.nearestWhole n = n)) ∧
    (2 ^ 1024 - 2 ^ 970 ≤ n →
      ∀ o, ofRequest host cwd root (l.ask .null r) = .ok o →
        ofRequest host cwd root (l.ask (.text (toString n)) r) = .error (.refused l.refusal)) := by
  refine ⟨fun hlimit => ?_, fun hlarge o ho => ofRequest_ask_numeral_of_large hlarge ho⟩
  have hnearest := Decimal.isNearest_nearestWhole hlimit
  refine ⟨fun o ho v hv => ofRequest_ask_of_mem_formsOf hn hlimit ho hv, ?_, hnearest,
    hnearest.eq_iff, Decimal.nearestWhole_of_le⟩
  -- a whole number and its numeral are both among the forms of the limit
  have hint := int_mem_formsOf n
  have hnumeral := numeral_mem_formsOf n
  refine ofRequest_ask_congr (isGiven_of_mem_formsOf hint) (isGiven_of_mem_formsOf hnumeral)
    (isShowable_of_mem_formsOf hn hlimit hint) rfl ?_
  rw [positiveOf_of_mem_formsOf hn hlimit hint, positiveOf_of_mem_formsOf hn hlimit hnumeral]

/-- The options of a scan of which nothing is asked, at a root without files. -/
def plainOptions : ScanOptions where
  root := []
  entropyThreshold := Severity.med.entropyFloor

/-- The options of the example. -/
private theorem ofRequest_plain : ofRequest ({} : FileTree) [] "." {} = .ok plainOptions := by
  -- an empty directory, and nothing asked for
  have hroot : ({} : FileTree).host.resolve [] "." = .ok [] := by cbv
  have hexists : ({} : FileTree).host.exists? [] = .ok true := by cbv
  have hdirectory : ({} : FileTree).host.directoryOf [] = .ok [] := by cbv
  have hdefault : ({} : FileTree).host.exists? ([] ++ [defaultIgnoreName]) = .ok false := by cbv
  exact ofRequest_of_accepted {
    root_eq := hroot
    root_exists := hexists
    severity_eq := rfl
    entropyThreshold_eq := optional_of_not_isGiven rfl _ _
    maxFindings_eq := rfl
    maxFileSize_eq := rfl
    ignoreFile_eq := ignoreFile_of_default hdirectory hdefault
    suppressions_eq := rfl
    progress_eq := rfl }

/-- One more than `2 ^ 53` is read as `2 ^ 53`. -/
theorem ofRequest_wholeLimit_rounded :
    (0 < 9007199254740993 ∧ 9007199254740993 < 2 ^ 1024 - 2 ^ 970) ∧
      ofRequest ({} : FileTree) [] "." { maxFindings := .int 9007199254740993 } =
        .ok { plainOptions with maxFindings := some 9007199254740992 } ∧
      ofRequest ({} : FileTree) [] "." { maxFindings := .text "9007199254740993" } =
        .ok { plainOptions with maxFindings := some 9007199254740992 } := by
  have hlimit : 9007199254740993 < 2 ^ 1024 - 2 ^ 970 := by decide +kernel
  have hnumeral : toString 9007199254740993 = "9007199254740993" := by cbv
  have hnearest : Decimal.nearestWhole 9007199254740993 = 9007199254740992 := by decide +kernel
  -- the nearest float to 2^53 + 1 is 2^53
  have hread := ((ofRequest_wholeLimit ({} : FileTree) [] "." {} .findings
    (n := 9007199254740993) (by decide)).1 hlimit).1 _ ofRequest_plain
  rw [hnearest] at hread
  exact ⟨⟨by decide, hlimit⟩, hread _ (int_mem_formsOf _),
    hread _ (hnumeral ▸ numeral_mem_formsOf _)⟩

/-- Not every limit is kept as it is: one more than `2 ^ 53` loses its last digit in both forms, and
the numeral of `2 ^ 1024` is refused. -/
theorem ofRequest_limit_changed :
    ofRequest ({} : FileTree) [] "." { maxFileSize := .int 9007199254740993 } =
        .ok { plainOptions with maxFileSize := 9007199254740992 } ∧
      ofRequest ({} : FileTree) [] "." { maxFileSize := .text "9007199254740993" } =
        .ok { plainOptions with maxFileSize := 9007199254740992 } ∧
      ofRequest ({} : FileTree) [] "." { maxFileSize := .text (toString (2 ^ 1024 : Nat)) } =
        .error (.refused .invalidMaxFileSize) := by
  have hlimit : 9007199254740993 < 2 ^ 1024 - 2 ^ 970 := by decide +kernel
  have hnumeral : toString 9007199254740993 = "9007199254740993" := by cbv
  have hnearest : Decimal.nearestWhole 9007199254740993 = 9007199254740992 := by decide +kernel
  -- the request without the limit is accepted
  have hplain : ofRequest ({} : FileTree) [] "." (Limit.fileSize.ask .null {}) = .ok plainOptions :=
    ofRequest_plain
  have hread := fun v => ofRequest_ask_of_mem_formsOf (by decide) hlimit hplain (v := v)
  rw [hnearest] at hread
  -- beyond the floats there is no number to read
  have hlarge : ∀ n : Nat, 2 ^ 1024 - 2 ^ 970 ≤ n →
      ofRequest ({} : FileTree) [] "." { maxFileSize := .text (toString n) } =
        .error (.refused .invalidMaxFileSize) :=
    fun _ hn => ofRequest_ask_numeral_of_large hn hplain
  exact ⟨hread _ (int_mem_formsOf _), hread _ (hnumeral ▸ numeral_mem_formsOf _),
    hlarge _ (Nat.sub_le _ _)⟩

end SecretScan.ScanOptions
