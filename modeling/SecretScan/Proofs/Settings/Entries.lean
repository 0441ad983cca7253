import Mathlib
import SecretScan.Proofs.Except
import SecretScan.Proofs.Settings.Keys
import SecretScan.Settings

/-!
# What is read from a settings file

The value of a settings file is taken as it is, but its keys have to be known and its patterns a
text or a list. Values of any type stand there, so that checking them can itself fail: keys of
several kinds cannot be sorted, and numbers that are too long cannot be shown.

## Key results

- `ofValue_of_not_mapping`, `ofValue_of_unknown`, `ofValue_of_known`: how a value is read
- `ofValue_eq_error_iff`: the faults of a value that are no refusals
- `ofFile_eq_error_iff`: those of a settings file
-/

namespace SecretScan

namespace Value

/-- Items can be shown if each of them can. -/
theorem areShowable_iff {l : List Value} :
    areShowable l = true ↔ ∀ v ∈ l, v.isShowable = true := by
  induction l with
  | nil => simp [areShowable]
  | cons v rest ih => simp [areShowable, ih]

/-- Items cannot be shown if one of them cannot. -/
theorem areShowable_eq_false_iff {l : List Value} :
    areShowable l = false ↔ ∃ v ∈ l, v.isShowable = false := by
  rw [← Bool.not_eq_true, areShowable_iff]
  simp

end Value

namespace Settings

variable {host : Host} {path : Path} {file : String} {v : Value} {e : SettingsError}

/-- Is the value nothing or a mapping? -/
def IsMapping (v : Value) : Prop :=
  v.inside = .null ∨ ∃ entries, v.inside = .mapping entries

/-- The unknown keys of a value. -/
def unknownKeys (v : Value) : List Value :=
  ((entriesOf v).map (·.1)).filter (!isKnown ·)

/-! ## Patterns -/

/-- Reading patterns fails without a refusal if one of them cannot be shown. -/
theorem patternsOf_eq_error_iff {p : Option Value} (he : ∀ r, e ≠ .refused r) :
    patternsOf file p = .error e ↔
      ∃ w items, p = some w ∧ w.inside = .list items ∧
        (∃ item ∈ items, item.isShowable = false) ∧ e = .unshowable := by
  constructor
  · -- what goes wrong with a list is an item that cannot be shown; anything else is refused
    intro h
    unfold patternsOf at h
    split at h
    · exact nomatch h
    next w =>
      split at h
      · exact nomatch h
      next items hitems =>
        split at h
        · exact nomatch h
        next hshowable =>
          obtain rfl := Except.error.inj h
          exact ⟨w, items, rfl, hitems,
            Value.areShowable_eq_false_iff.1 (Bool.eq_false_iff.2 hshowable), rfl⟩
      · exact absurd (Except.error.inj h).symm (he _)
  · rintro ⟨w, items, rfl, hitems, hshowable, rfl⟩
    unfold patternsOf
    simp [hitems, Value.areShowable_eq_false_iff.2 hshowable]

/-! ## The value of a file -/

/-- What is neither nothing nor a mapping is refused. -/
theorem ofValue_of_not_mapping (file : String) (h : ¬ IsMapping v) :
    ofValue file v = .error (.refused (.notMapping file)) := by
  unfold ofValue
  split
  next hnull => exact absurd (.inl hnull) h
  next entries hentries => exact absurd (.inr ⟨entries, hentries⟩) h
  next => rfl

/-- A mapping with unknown keys fails for them. -/
theorem ofValue_of_unknown (file : String) (h : unknownKeys v ≠ []) :
    ofValue file v = .error (match Value.sortKeys? (unknownKeys v) with
      | some keys =>
        if Value.areShowable keys then .refused (.unknownKeys file keys) else .unshowable
      | none => .mixedKeys) := by
  unfold unknownKeys entriesOf at h ⊢
  unfold ofValue
  cases hinside : v.inside with
  | mapping entries =>
    rw [hinside] at h
    have hunknown : (!((entries.map (·.1)).filter (!isKnown ·)).isEmpty) = true := by
      simpa using h
    simp only [pure_bind, hunknown, if_true]
    -- whether the keys can be sorted decides the outcome, on both sides alike
    generalize Value.sortKeys? ((entries.map (·.1)).filter (!isKnown ·)) = sorted
    cases sorted <;> rfl
  | _ =>
    rw [hinside] at h
    exact absurd rfl h

/-- A value with known keys only is read by its patterns. -/
theorem ofValue_of_known (file : String) (hmapping : IsMapping v) (h : unknownKeys v = []) :
    ofValue file v =
      (fun patterns =>
          ofEntries (entriesOf (withEntry "ignore_regex" (.list (patterns.map .text)) v)) patterns)
        <$> patternsOf file (valueOf? "ignore_regex" (entriesOf v)) := by
  unfold unknownKeys at h
  unfold ofValue
  obtain hinside | ⟨entries, hinside⟩ := hmapping
  · -- an empty document has no entries, so that no key of it is unknown
    have hentries : entriesOf v = [] := by rw [entriesOf, hinside]
    rw [hinside, hentries]
    rfl
  · have hentries : entriesOf v = entries := by rw [entriesOf, hinside]
    rw [hentries] at h
    rw [hentries]
    have hunknown : (!((entries.map (·.1)).filter (!isKnown ·)).isEmpty) = false := by
      simpa using h
    rw [hinside]
    simp only [pure_bind, hunknown, Bool.false_eq_true, if_false]
    cases patternsOf file (valueOf? "ignore_regex" entries) <;> rfl

/-! ## Faults that are no refusals -/

/-- The faults of the value of a settings file that are no refusals. -/
inductive ValueBreaks (v : Value) : SettingsError → Prop where
  /-- The unknown keys are to be sorted, but are of several kinds. -/
  | mixedKeys : ¬ (unknownKeys v).Pairwise Value.Comparable → ValueBreaks v .mixedKeys
  /-- An unknown key is to be shown, but there is a number in it that is too long. -/
  | unshowableKey {key : Value} :
    (unknownKeys v).Pairwise Value.Comparable → key ∈ unknownKeys v → key.isShowable = false →
      ValueBreaks v .unshowable
  /-- A pattern is to be read from a value that cannot be shown. -/
  | unshowablePattern {p : Value} {items : List Value} {item : Value} :
    IsMapping v → unknownKeys v = [] → valueOf? "ignore_regex" (entriesOf v) = some p →
      p.inside = .list items → item ∈ items → item.isShowable = false → ValueBreaks v .unshowable

/-- The faults of a mapping with unknown keys. -/
private theorem ofValue_eq_error_iff_of_unknown (he : ∀ r, e ≠ .refused r)
    (hunknown : unknownKeys v ≠ []) : ofValue file v = .error e ↔ ValueBreaks v e := by
  rw [ofValue_of_unknown file hunknown]
  cases hsort : Value.sortKeys? (unknownKeys v) with
  | none =>
    -- keys of several kinds cannot be compared, and the sorting stops at them
    have hmixed : ¬ (unknownKeys v).Pairwise Value.Comparable := by
      rw [← Value.isSome_sortKeys?_iff, hsort]
      exact Bool.false_ne_true
    constructor
    · intro h
      obtain rfl := Except.error.inj h
      exact .mixedKeys hmixed
    · intro h
      cases h with
      | mixedKeys => rfl
      | unshowableKey hsorted => exact absurd hsorted hmixed
      | unshowablePattern _ hknown => exact absurd hknown hunknown
  | some keys =>
    -- the keys are sorted, so that the refusal is a matter of showing them
    have hsorted : (unknownKeys v).Pairwise Value.Comparable := by
      rw [← Value.isSome_sortKeys?_iff, hsort]
      rfl
    have hperm := Value.perm_of_sortKeys? hsort
    constructor
    · intro h
      cases hshowable : Value.areShowable keys with
      | true =>
        simp only [hshowable, if_true, Except.error.injEq] at h
        exact absurd h.symm (he _)
      | false =>
        simp only [hshowable, Bool.false_eq_true, if_false, Except.error.injEq] at h
        subst h
        obtain ⟨key, hkey, hkey'⟩ := Value.areShowable_eq_false_iff.1 hshowable
        exact .unshowableKey hsorted (hperm.mem_iff.1 hkey) hkey'
    · intro h
      cases h with
      | mixedKeys hmixed => exact absurd hsorted hmixed
      | unshowableKey _ hkey hkey' =>
        have hshowable : Value.areShowable keys = false :=
          Value.areShowable_eq_false_iff.2 ⟨_, hperm.mem_iff.2 hkey, hkey'⟩
        simp [hshowable]
      | unshowablePattern _ hknown => exact absurd hknown hunknown

/-- The faults of a mapping of known keys are those of its patterns. -/
private theorem ofValue_eq_error_iff_of_known (he : ∀ r, e ≠ .refused r) (hmapping : IsMapping v)
    (hknown : unknownKeys v = []) : ofValue file v = .error e ↔ ValueBreaks v e := by
  rw [ofValue_of_known file hmapping hknown, ← faultOf_eq_some_iff, faultOf_map,
    faultOf_eq_some_iff, patternsOf_eq_error_iff he]
  -- nothing but the patterns is left to fail
  constructor
  · rintro ⟨p, items, hp, hitems, ⟨item, hitem, hshowable⟩, rfl⟩
    exact .unshowablePattern hmapping hknown hp hitems hitem hshowable
  · intro h
    cases h with
    | mixedKeys hmixed => exact absurd (hknown ▸ List.Pairwise.nil) hmixed
    | unshowableKey _ hkey => rw [hknown] at hkey; exact nomatch hkey
    | unshowablePattern _ _ hp hitems hitem hshowable =>
      exact ⟨_, _, hp, hitems, ⟨_, hitem, hshowable⟩, rfl⟩

/-- The faults of the value of a settings file that are no refusals. -/
theorem ofValue_eq_error_iff (he : ∀ r, e ≠ .refused r) :
    ofValue file v = .error e ↔ ValueBreaks v e := by
  by_cases hknown : unknownKeys v = []
  · by_cases hmapping : IsMapping v
    · exact ofValue_eq_error_iff_of_known he hmapping hknown
    · -- a value that is no mapping is refused, and has no keys and no patterns to fail for
      rw [ofValue_of_not_mapping file hmapping]
      constructor
      · intro h
        exact absurd (Except.error.inj h).symm (he _)
      · intro h
        cases h with
        | mixedKeys hmixed => exact absurd (hknown ▸ List.Pairwise.nil) hmixed
        | unshowableKey _ hkey => rw [hknown] at hkey; exact nomatch hkey
        | unshowablePattern hmapping' => exact absurd hmapping' hmapping
  · exact ofValue_eq_error_iff_of_unknown he hknown

/-- The faults of a settings file that are no refusals. -/
inductive FileBreaks (host : Host) (path : Path) : SettingsError → Prop where
  /-- The file is no text, or asks for a value that there is not. -/
  | valueless {content : ByteArray} {e : Yaml.Error} :
    host.read path = .ok content → host.valueOf content = .error e → e ≠ .malformed →
      FileBreaks host path (.valueless e)
  /-- Its value breaks the check. -/
  | value {content : ByteArray} {v : Value} {e : SettingsError} :
    host.read path = .ok content → host.valueOf content = .ok v → ValueBreaks v e →
      FileBreaks host path e

/-- A file that cannot be opened or is malformed is refused; others come to what is in them. -/
theorem ofFile_eq_error_iff (he : ∀ r, e ≠ .refused r) :
    ofFile host path = .error e ↔ FileBreaks host path e := by
  unfold ofFile
  cases hread : host.read path with
  | error io =>
    constructor
    · intro h
      exact absurd (Except.error.inj h).symm (he _)
    · intro h
      cases h with
      | valueless hcontent | value hcontent => exact nomatch hread.symm.trans hcontent
  | ok content =>
    dsimp only
    -- whatever breaks is about this content
    have hsame : ∀ {content'}, host.read path = .ok content' → content' = content :=
      fun hcontent => Except.ok.inj (hcontent.symm.trans hread)
    cases hvalue : host.valueOf content with
    | ok v =>
      dsimp only
      rw [ofValue_eq_error_iff he]
      refine ⟨.value hread hvalue, fun h => ?_⟩
      cases h with
      | valueless hcontent hvalue' =>
        rw [hsame hcontent, hvalue] at hvalue'
        exact nomatch hvalue'
      | value hcontent hvalue' hbreaks =>
        rw [hsame hcontent, hvalue] at hvalue'
        exact Except.ok.inj hvalue' ▸ hbreaks
    | error e' =>
      constructor
      · intro h
        cases e' with
        | malformed => exact absurd (Except.error.inj h).symm (he _)
        | _ =>
          obtain rfl := Except.error.inj h
          exact .valueless hread hvalue nofun
      · intro h
        cases h with
        | valueless hcontent hvalue' hform =>
          rw [hsame hcontent, hvalue] at hvalue'
          obtain rfl := Except.error.inj hvalue'
          cases e' with
          | malformed => exact absurd rfl hform
          | _ => rfl
        | value hcontent hvalue' =>
          rw [hsame hcontent, hvalue] at hvalue'
          exact nomatch hvalue'

end Settings

end SecretScan
