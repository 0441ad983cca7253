import Mathlib
import SecretScan.Value

/-!
# Which keys can be sorted

Keys are compared with keys of their own kind only, so sorting them either goes through or meets two
that cannot be compared.

## Key results

- `isSome_less?_iff`: two keys can be compared if they are of one kind
- `perm_of_sortKeys?`: sorting keeps the keys
- `isSome_sortKeys?_iff`: keys can be sorted if each two of them can be compared
-/

namespace SecretScan.Value

/-- The kinds of keys within which there is an order. -/
inductive KeyKind where
  | text
  | bytes
  | date
  /-- Moments that know their distance from universal time, or that do not. -/
  | moment (zoned : Bool)
  | number
  deriving DecidableEq

/-- The kind of a key; keys of no kind are compared with nothing. -/
def keyKind? : Value → Option KeyKind
  | .text _ => some .text
  | .bytes _ => some .bytes
  | .date _ => some .date
  | .moment t => some (.moment t.offset.isSome)
  | .bool _ | .int _ | .float _ => some .number
  | .null | .list _ | .pair _ _ | .mapping _ | .set _ | .marked _ _ | .again _ => none

/-- Can two keys be compared? -/
def Comparable (a b : Value) : Prop :=
  ∃ k, a.keyKind? = some k ∧ b.keyKind? = some k

/-- Of two keys that can be compared either may come first. -/
theorem Comparable.symm {a b : Value} (h : a.Comparable b) : b.Comparable a := by
  obtain ⟨k, ha, hb⟩ := h
  exact ⟨k, hb, ha⟩

/-- Keys that can be compared with one and the same can be compared. -/
theorem Comparable.trans {a b c : Value} (hab : a.Comparable b) (hbc : b.Comparable c) :
    a.Comparable c := by
  obtain ⟨k, ha, hb⟩ := hab
  obtain ⟨k', hb', hc⟩ := hbc
  obtain rfl := Option.some.inj (hb.symm.trans hb')
  exact ⟨k, ha, hc⟩

/-- Only numbers have a magnitude. -/
theorem isSome_magnitude?_iff (v : Value) :
    v.magnitude?.isSome = true ↔ v.keyKind? = some .number := by
  cases v with
  | float x => cases h : Decimal.BinaryFraction.ofFloat? x <;> simp [magnitude?, h, keyKind?]
  | _ => simp [magnitude?, keyKind?]

/-- Two keys are put in order if they can be compared. -/
theorem isSome_less?_iff (a b : Value) : (a.less? b).isSome = true ↔ a.Comparable b := by
  unfold less?
  split
  next => exact ⟨fun _ => ⟨.text, rfl, rfl⟩, fun _ => rfl⟩
  next => exact ⟨fun _ => ⟨.bytes, rfl, rfl⟩, fun _ => rfl⟩
  next => exact ⟨fun _ => ⟨.date, rfl, rfl⟩, fun _ => rfl⟩
  next t t' =>
    -- two moments are of one kind if both or neither know their distance from universal time
    cases h : t.offset.isSome <;> cases h' : t'.offset.isSome <;>
      simp [compareMoments?, Comparable, keyKind?, h, h']
  next htext hbytes hdate hmoment =>
    -- what is left are numbers, or keys of different kinds
    constructor
    · intro h
      split at h
      next x y ha hb =>
        exact ⟨.number, (isSome_magnitude?_iff a).1 (by rw [ha]; rfl),
          (isSome_magnitude?_iff b).1 (by rw [hb]; rfl)⟩
      next => exact nomatch h
    · rintro ⟨k, ha, hb⟩
      have hk : k = .number := by
        cases a <;> cases b <;> simp_all [keyKind?]
        all_goals grind
      subst hk
      obtain ⟨x, hx⟩ := Option.isSome_iff_exists.1 ((isSome_magnitude?_iff a).2 ha)
      obtain ⟨y, hy⟩ := Option.isSome_iff_exists.1 ((isSome_magnitude?_iff b).2 hb)
      rw [hx, hy]
      rfl

/-! ## Sorting -/

/-- Putting a key in its place adds it, and loses none. -/
private theorem perm_of_insertKey {key : Value} {keys sorted : List Value}
    (h : insertKey key keys = some sorted) : sorted.Perm (key :: keys) := by
  -- the insertion walks past the keys that are less, and stops at the first that is not
  induction keys generalizing sorted with
  | nil =>
    obtain rfl := Option.some.inj h
    exact .refl _
  | cons k rest ih =>
    obtain ⟨less, _, h⟩ := Option.bind_eq_some_iff.1 h
    cases less with
    | true =>
      obtain rfl := Option.some.inj h
      exact .refl _
    | false =>
      obtain ⟨sorted', hrest, h⟩ := Option.bind_eq_some_iff.1 h
      obtain rfl := Option.some.inj h
      exact ((ih hrest).cons k).trans (.swap key k rest)

/-- Sorting keeps the keys. -/
theorem perm_of_sortKeys? {keys sorted : List Value} (h : sortKeys? keys = some sorted) :
    sorted.Perm keys := by
  induction keys generalizing sorted with
  | nil =>
    obtain rfl := Option.some.inj h
    exact .refl _
  | cons key rest ih =>
    -- the key is put among the rest, which are the same in another order
    obtain ⟨sorted', hrest, h⟩ := Option.bind_eq_some_iff.1 h
    exact (perm_of_insertKey h).trans ((ih hrest).cons key)

/-- Among keys that can be compared with each other there is a place for one more if it can be
compared with them. -/
private theorem isSome_insertKey_iff {key : Value} {keys : List Value}
    (h : keys.Pairwise Comparable) :
    (insertKey key keys).isSome = true ↔ ∀ k ∈ keys, key.Comparable k := by
  induction keys with
  | nil => simp [insertKey]
  | cons k rest ih =>
    obtain ⟨hk, hrest⟩ := List.pairwise_cons.1 h
    constructor
    · intro hsome
      obtain ⟨sorted, hsorted⟩ := Option.isSome_iff_exists.1 hsome
      obtain ⟨less, hless, _⟩ := Option.bind_eq_some_iff.1 hsorted
      -- what can be compared with the first key can be compared with all of them
      have hkey : key.Comparable k := (isSome_less?_iff key k).1 (by rw [hless]; rfl)
      intro k' hk'
      obtain rfl | hk' := List.mem_cons.1 hk'
      · exact hkey
      · exact hkey.trans (hk k' hk')
    · intro hkey
      obtain ⟨less, hless⟩ :=
        Option.isSome_iff_exists.1 ((isSome_less?_iff key k).2 (hkey k List.mem_cons_self))
      have htail := (ih hrest).2 fun k' hk' => hkey k' (List.mem_cons_of_mem _ hk')
      obtain ⟨sorted, hsorted⟩ := Option.isSome_iff_exists.1 htail
      cases less <;> simp [insertKey, hless, hsorted]

/-- Keys can be sorted if each two of them can be compared. -/
theorem isSome_sortKeys?_iff (keys : List Value) :
    (sortKeys? keys).isSome = true ↔ keys.Pairwise Comparable := by
  induction keys with
  | nil => simp [sortKeys?]
  | cons key rest ih =>
    -- the rest is sorted first, which keeps its keys, and then the key finds its place
    rw [List.pairwise_cons, ← ih]
    cases hrest : sortKeys? rest with
    | none => simp [sortKeys?, hrest]
    | some sorted =>
      have hperm := perm_of_sortKeys? hrest
      have hsorted : sorted.Pairwise Comparable :=
        (hperm.pairwise_iff fun h => h.symm).2 (ih.1 (by rw [hrest]; rfl))
      have hplace : (insertKey key sorted).isSome = true ↔ ∀ k ∈ sorted, key.Comparable k :=
        isSome_insertKey_iff hsorted
      simp only [hperm.mem_iff] at hplace
      simpa [sortKeys?, hrest] using hplace

end SecretScan.Value
