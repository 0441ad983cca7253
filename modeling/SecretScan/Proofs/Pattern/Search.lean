import SecretScan.Proofs.Pattern.Extent

/-!
# What a search finds

A search goes through the positions of a text from left to right and leaves out those within the
match before. For patterns that match nothing empty this module says what that comes to: matches do
not overlap, and wherever a match could start, there is a match that is found.

## Key results

- `matchAt_eq_head?`: the match at a position is the preferred end of the root
- `Progress.Covers.step`: what is known of a search is known after one more position
- `pairwise_findAll`: the matches that are found do not overlap
- `exists_mem_findAll_of_matchAt`: a position where a match could start is in one that is found
-/

namespace SecretScan.Pattern

/-! ## Matches at a position -/

/-- The match at a position is the preferred end of the root. -/
theorem matchAt_eq_head? (p : Pattern) (s : Subject) (pos : Nat) :
    p.matchAt s false pos =
      (p.root.ends s pos []).head?.map fun e => ⟨⟨pos, e.1⟩, e.2⟩ := by
  unfold matchAt
  simp only [run_eq_findSome?, Bool.false_and, Bool.false_eq_true, if_false]
  rw [findSome?_end_eq_head?]

/-- Where the root has an end there is a match. -/
theorem isSome_matchAt_of_mem_ends {p : Pattern} {s : Subject} {pos : Nat} {e : End}
    (h : e ∈ p.root.ends s pos []) : (p.matchAt s false pos).isSome := by
  rw [matchAt_eq_head?, Option.isSome_map, List.isSome_head?]
  simp [List.ne_nil_of_mem h]

section

variable {p : Pattern} (hpos : 1 ≤ (p.root.width []).least) {s : Subject}

include hpos

/-- No match is empty. -/
theorem start_lt_stop_of_matchAt {advance : Bool} {pos : Nat} {m : Match}
    (h : p.matchAt s advance pos = some m) : m.span.start < m.span.stop := by
  obtain ⟨rfl, hend⟩ := mem_ends_of_matchAt h
  have hleast := least_le_of_mem_ends s p.root _ [] _ hend
  simp only at hleast
  omega

/-- There is at most one match at a position, as it is not empty. -/
private theorem matchesAt_eq_toList (pos : Nat) :
    p.matchesAt s pos = (p.matchAt s false pos).toList := by
  unfold matchesAt
  cases hat : p.matchAt s false pos with
  | none => rfl
  | some m =>
    -- a match that is found is not empty, so that it is one of the matches
    have hlt := start_lt_stop_of_matchAt hpos hat
    have hstart := (mem_ends_of_matchAt hat).1
    simp only [Option.toList_some]
    rw [if_neg (by omega)]

/-! ## One position after the other -/

/-- A position is within the match before, or nothing starts there, or the next match does. -/
theorem Progress.step_cases (state : Progress) (pos : Nat) :
    (pos < state.free ∧ state.step p s pos = state) ∨
    (state.free ≤ pos ∧ p.matchAt s false pos = none ∧ state.step p s pos = state) ∨
    ∃ m, state.free ≤ pos ∧ p.matchAt s false pos = some m ∧
      state.step p s pos = ⟨m.span.stop, state.found.push m⟩ := by
  unfold Progress.step
  -- positions before the end of the last match are passed over
  split
  · next hlt => exact .inl ⟨hlt, rfl⟩
  · next hge =>
    simp only [matchesAt_eq_toList hpos]
    cases p.matchAt s false pos with
    | none => exact .inr (.inl ⟨Nat.le_of_not_lt hge, rfl, by simp⟩)
    | some m => exact .inr (.inr ⟨m, Nat.le_of_not_lt hge, rfl, by simp⟩)

omit hpos in
/-- What is known of a search that has looked at the positions before `n`. -/
structure Progress.Covers (p : Pattern) (s : Subject) (n : Nat) (state : Progress) : Prop where
  matchAt_eq : ∀ m ∈ state.found, p.matchAt s false m.span.start = some m
  stop_le_free : ∀ m ∈ state.found, m.span.stop ≤ state.free
  disjoint : state.found.toList.Pairwise fun m m' => m.span.stop ≤ m'.span.start
  /-- Where a match could start, there is one. -/
  covered : ∀ pos < n, (p.matchAt s false pos).isSome →
    ∃ m ∈ state.found, m.span.start ≤ pos ∧ pos < m.span.stop
  /-- Positions that will be left out are in a match. -/
  leftOut : ∀ pos, n ≤ pos → pos < state.free →
    ∃ m ∈ state.found, m.span.start ≤ pos ∧ pos < m.span.stop

omit hpos in
/-- A position can be left out if no match starts there, or it is in one. -/
theorem Progress.Covers.skip {n : Nat} {state : Progress} (h : state.Covers p s n)
    (hn : (p.matchAt s false n).isSome →
      ∃ m ∈ state.found, m.span.start ≤ n ∧ n < m.span.stop) : state.Covers p s (n + 1) := by
  refine ⟨h.matchAt_eq, h.stop_le_free, h.disjoint, fun pos hle hat => ?_,
    fun pos hle => h.leftOut pos (by omega)⟩
  obtain rfl | hbefore := Nat.eq_or_lt_of_le (Nat.le_of_lt_succ hle)
  · exact hn hat
  · exact h.covered pos hbefore hat

/-- What is covered stays covered by one step more. -/
theorem Progress.Covers.step {n : Nat} {state : Progress} (h : state.Covers p s n) :
    (state.step p s n).Covers p s (n + 1) := by
  obtain ⟨hlt, heq⟩ | ⟨hfree, hnone, heq⟩ | ⟨m, hfree, hat, heq⟩ :=
    Progress.step_cases hpos (s := s) state n
  · -- the position lies within the last match, which stays the last
    rw [heq]
    exact h.skip fun _ => h.leftOut n (Nat.le_refl n) hlt
  · -- nothing matches here, so there is nothing more to be covered
    rw [heq]
    refine h.skip fun hat => ?_
    rw [hnone] at hat
    exact nomatch hat
  · -- the new match starts behind those before
    rw [heq]
    have hstart := (mem_ends_of_matchAt hat).1
    have hstop := start_lt_stop_of_matchAt hpos hat
    refine ⟨fun m' hm' => ?_, fun m' hm' => ?_, ?_, fun pos hle hsome => ?_, fun pos hle hlt => ?_⟩
    · obtain hm' | rfl := Array.mem_push.1 hm'
      · exact h.matchAt_eq m' hm'
      · rw [hstart]
        exact hat
    · obtain hm' | rfl := Array.mem_push.1 hm'
      · have := h.stop_le_free m' hm'
        simp only
        omega
      · exact Nat.le_refl _
    · rw [Array.toList_push, List.pairwise_append]
      refine ⟨h.disjoint, List.pairwise_singleton _ _, fun m' hm' m'' hm'' => ?_⟩
      obtain rfl := List.mem_singleton.1 hm''
      have := h.stop_le_free m' (Array.mem_toList_iff.1 hm')
      omega
    · obtain heq | hbefore := Nat.eq_or_lt_of_le (Nat.le_of_lt_succ hle)
      · exact ⟨m, Array.mem_push_self, by omega, by omega⟩
      · obtain ⟨m', hm', hcovers⟩ := h.covered pos hbefore hsome
        exact ⟨m', Array.mem_push_of_mem m hm', hcovers⟩
    · exact ⟨m, Array.mem_push_self, by omega, hlt⟩

/-- After so many steps as many positions are covered. -/
theorem covers_foldl_step (n : Nat) :
    ((List.range n).foldl (Progress.step p s) ⟨0, #[]⟩).Covers p s n := by
  induction n with
  | zero =>
    -- at first nothing is found, and everything holds of nothing
    have hnone : ∀ m : Match, m ∉ (#[] : Array Match) := fun m => Array.not_mem_empty m
    exact ⟨fun m hm => absurd hm (hnone m), fun m hm => absurd hm (hnone m), List.Pairwise.nil,
      fun _ hlt => absurd hlt (Nat.not_lt_zero _), fun _ _ hlt => absurd hlt (Nat.not_lt_zero _)⟩
  | succ n ih =>
    rw [List.range_succ, List.foldl_append]
    exact ih.step hpos

/-! ## All matches -/

/-- A match that is found is the one that starts where it does. -/
theorem matchAt_eq_of_mem_findAll {m : Match} (h : m ∈ p.findAll s) :
    p.matchAt s false m.span.start = some m :=
  (covers_foldl_step hpos (s.size + 1)).matchAt_eq m (Array.mem_toList_iff.1 h)

/-- The matches that are found do not overlap and come from left to right. -/
theorem pairwise_findAll (s : Subject) :
    (p.findAll s).Pairwise fun m m' => m.span.stop ≤ m'.span.start :=
  (covers_foldl_step hpos (s.size + 1)).disjoint

/-- A position where a match could start is in one that is found. -/
theorem exists_mem_findAll_of_matchAt {pos : Nat} (hle : pos ≤ s.size)
    (h : (p.matchAt s false pos).isSome) :
    ∃ m ∈ p.findAll s, m.span.start ≤ pos ∧ pos < m.span.stop := by
  obtain ⟨m, hm, hcovers⟩ :=
    (covers_foldl_step hpos (s.size + 1)).covered pos (Nat.lt_succ_of_le hle) h
  exact ⟨m, Array.mem_toList_iff.2 hm, hcovers⟩

end

end SecretScan.Pattern
