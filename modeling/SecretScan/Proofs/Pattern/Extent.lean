import SecretScan.Proofs.Pattern.Ends

/-!
# What a node matches

Between a position and an end of a node stand characters of the sets that the node is made of, at
least as many as its width says.

## Key results

- `reaches_of_mem_ends`: the characters up to an end of a node are from its sets
- `least_le_of_mem_ends`: an end of a node is at least as far away as its width says
- `mem_sets_of_mem_text`, `least_le_length_text`: the same for the text of a match
-/

namespace SecretScan.Pattern

/-- The sets that the characters matched by a node are from; the text of a group may have any. -/
def Node.sets : Node → List CharSet
  | .empty | .anchor _ | .look _ _ _ => []
  | .one set | .span set _ _ _ => [set]
  | .seq a b | .either a b | .ifGroup _ a b => a.sets ++ b.sets
  | .group _ body | .repeated body _ _ _ | .atomic body => body.sets
  | .again _ _ => [.all]

/-- Do the groups stand within the text? -/
def Groups.Within (s : Subject) (groups : Groups) : Prop :=
  ∀ g ∈ groups, g.2.start ≤ g.2.stop ∧ g.2.stop ≤ s.size

/-- Each group is a part of the subject. -/
private theorem Groups.Within.of_lookup {s : Subject} {groups : Groups} (h : groups.Within s)
    {index : Nat}
    {part : Span} (hpart : groups.lookup index = some part) :
    part.start ≤ part.stop ∧ part.stop ≤ s.size := by
  obtain ⟨before, after, rfl, _⟩ := List.lookup_eq_some_iff.1 hpart
  exact h (index, part) (by simp)

/-- Is `e` an end that can be reached from a position by characters of some sets? -/
structure Reaches (s : Subject) (sets : List CharSet) (pos : Nat) (e : End) : Prop where
  le : pos ≤ e.1
  le_size : e.1 ≤ s.size
  within : Groups.Within s e.2
  chars : ∀ i, pos ≤ i → i < e.1 → ∃ c, s[i]? = some c ∧ ∃ set ∈ sets, set.contains c = true

section

variable {s : Subject} {sets : List CharSet} {pos : Nat}

/-- Staying where one is reaches no character. -/
theorem Reaches.refl {groups : Groups} (hpos : pos ≤ s.size) (hgroups : groups.Within s) :
    Reaches s sets pos (pos, groups) :=
  ⟨Nat.le_refl pos, hpos, hgroups, fun _ hle hlt => absurd hlt (Nat.not_lt.2 hle)⟩

/-- What is reached by two steps in a row. -/
theorem Reaches.trans {e e' : End} (h : Reaches s sets pos e) (h' : Reaches s sets e.1 e') :
    Reaches s sets pos e' := by
  refine ⟨Nat.le_trans h.le h'.le, h'.le_size, h'.within, fun i hle hlt => ?_⟩
  by_cases hi : i < e.1
  · exact h.chars i hle hi
  · exact h'.chars i (Nat.le_of_not_lt hi) hlt

/-- More sets admit more characters. -/
theorem Reaches.mono {sets' : List CharSet} (hsub : sets ⊆ sets') {e : End}
    (h : Reaches s sets pos e) : Reaches s sets' pos e := by
  refine ⟨h.le, h.le_size, h.within, fun i hle hlt => ?_⟩
  obtain ⟨c, hc, set, hset, hcontains⟩ := h.chars i hle hlt
  exact ⟨c, hc, set, hsub hset, hcontains⟩

/-- A function whose ends are all reached by characters of some sets. -/
def EndsReach (s : Subject) (sets : List CharSet) (ends : Nat → Groups → List End) : Prop :=
  ∀ pos groups, pos ≤ s.size → groups.Within s → ∀ e ∈ ends pos groups, Reaches s sets pos e

variable {ends : Nat → Groups → List End} {groups : Groups} {e : End}

/-- A fixed number of repetitions reaches what each of them may. -/
private theorem reaches_of_mem_timesEnds (h : EndsReach s sets ends) (count : Nat) :
    EndsReach s sets (timesEnds ends count) := by
  -- one round after the other, each from where the last one ended
  induction count with
  | zero =>
    intro pos groups hpos hgroups e he
    obtain rfl := List.mem_singleton.1 he
    exact .refl hpos hgroups
  | succ count ih =>
    intro pos groups hpos hgroups e he
    obtain ⟨e', he', he⟩ := List.mem_flatMap.1 he
    have hfirst := h pos groups hpos hgroups e' he'
    exact hfirst.trans (ih e'.1 e'.2 hfirst.le_size hfirst.within e he)

/-- An open number of repetitions reaches what each of them may. -/
private theorem reaches_of_mem_moreEnds (h : EndsReach s sets ends) (order : Order) (rounds : Nat)
    (last : Option Nat) : EndsReach s sets (moreEnds ends order rounds last) := by
  -- either no more rounds, or one and then the rest
  induction rounds generalizing last with
  | zero =>
    intro pos groups hpos hgroups e he
    obtain rfl := List.mem_singleton.1 he
    exact .refl hpos hgroups
  | succ rounds ih =>
    intro pos groups hpos hgroups e he
    obtain rfl | ⟨e', he', he⟩ := mem_moreEnds_succ he
    · exact .refl hpos hgroups
    · have hfirst := h pos groups hpos hgroups e' he'
      exact hfirst.trans (ih (some pos) e'.1 e'.2 hfirst.le_size hfirst.within e he)

/-- Whatever a look-around finds, its groups stand within the text. -/
private theorem within_of_mem_lookEnd? (h : EndsReach s sets ends) {side : Side}
    (hpos : pos ≤ s.size)
    (hgroups : groups.Within s) (he : lookEnd? ends side pos groups = some e) : e.2.Within s := by
  -- a look ahead starts here, and a look behind some characters before, if there are so many
  cases side with
  | ahead => exact (h pos groups hpos hgroups e (List.mem_of_mem_head? he)).within
  | behind width =>
    have hback : pos - width ≤ s.size := Nat.le_trans (Nat.sub_le pos width) hpos
    unfold lookEnd? at he
    simp only at he
    split at he
    · exact (h (pos - width) groups hback hgroups e (List.mem_of_mem_head? he)).within
    · cases he

end

/-! ## Characters in a row -/

/-- The characters that are counted are from the set. -/
private theorem chars_of_lt_spanLength_go {s : Subject} {set : CharSet} {pos : Nat}
    (limit found : Nat) :
    ∀ i, found ≤ i → i < spanLength.go s set pos limit found →
      ∃ c, s[pos + i]? = some c ∧ set.contains c = true := by
  -- by induction on how many more are looked at, for any number that are counted already
  induction limit generalizing found with
  | zero => exact fun _ hle hlt => absurd hlt (Nat.not_lt.2 hle)
  | succ limit ih =>
    intro i hle hlt
    unfold spanLength.go at hlt
    cases hc : s[pos + found]? with
    | none =>
      simp only [hc] at hlt
      omega
    | some c =>
      simp only [hc] at hlt
      split at hlt
      · next hset =>
        obtain rfl | hgt := Nat.eq_or_lt_of_le hle
        · exact ⟨c, hc, hset⟩
        · exact ih (found + 1) i hgt hlt
      · omega

/-- A run counts characters of its set only. -/
private theorem chars_of_lt_spanCount {s : Subject} {set : CharSet} {max : Option Nat} {pos i : Nat}
    (h : i < spanCount s set max pos) : ∃ c, s[pos + i]? = some c ∧ set.contains c = true :=
  chars_of_lt_spanLength_go _ 0 i (Nat.zero_le i) h

/-- Where a text stands, up to case, there are characters. -/
private theorem chars_of_standsAt {s : Subject} {comparison : Comparison} {pos : Nat}
    {text : List Char}
    (h : standsAt s comparison pos text = true) :
    ∀ i, pos ≤ i → i < pos + text.length → ∃ c, s[i]? = some c := by
  -- the induction is on the text, one position on for each character
  induction text generalizing pos with
  | nil => exact fun i hle hlt => absurd hlt (Nat.not_lt.2 hle)
  | cons d ds ih =>
    intro i hle hlt
    unfold standsAt at h
    split at h
    · next c hc =>
      rw [Bool.and_eq_true] at h
      obtain rfl | hgt := Nat.eq_or_lt_of_le hle
      · exact ⟨c, hc⟩
      · exact ih h.2 i hgt (by rw [List.length_cons] at hlt; omega)
    · exact nomatch h

/-- The text of a part of the subject is as long as the part. -/
theorem length_text {s : Subject} {span : Span} (hle : span.start ≤ span.stop)
    (hstop : span.stop ≤ s.size) : (span.text s).length = span.stop - span.start := by
  unfold Span.text
  rw [List.length_take, List.length_drop, Array.length_toList]
  omega

/-- A position is at the end of the text at most, if characters lead up to it. -/
private theorem le_size_of_chars {s : Subject} {pos stop : Nat} (hpos : pos ≤ s.size)
    (h : ∀ i, pos ≤ i → i < stop → ∃ c, s[i]? = some c) : stop ≤ s.size := by
  refine Nat.le_of_not_lt fun hgt => ?_
  obtain ⟨c, hc⟩ := h s.size hpos hgt
  rw [Array.getElem?_eq_none (Nat.le_refl _)] at hc
  exact nomatch hc

/-! ## The ends of a node -/

/-- The characters up to an end of a node are from its sets. -/
theorem reaches_of_mem_ends (s : Subject) (node : Node) : EndsReach s node.sets (node.ends s) := by
  -- by induction on the node; every part starts where the one before it ended
  induction node with
  | empty =>
    intro pos groups hpos hgroups e he
    obtain rfl := List.mem_singleton.1 he
    exact .refl hpos hgroups
  | one set =>
    intro pos groups hpos hgroups e he
    obtain ⟨c, hc, hset, rfl⟩ := mem_ends_one he
    have hlt := (Array.getElem?_eq_some_iff.1 hc).1
    refine ⟨Nat.le_succ pos, hlt, hgroups, fun i hle hi => ?_⟩
    obtain rfl : pos = i := Nat.le_antisymm hle (Nat.le_of_lt_succ hi)
    exact ⟨c, hc, set, List.mem_singleton_self set, hset⟩
  | span set min max order =>
    intro pos groups hpos hgroups e he
    obtain ⟨n, _, hcount, rfl⟩ := mem_spanEnds he
    have hchars : ∀ i, pos ≤ i → i < pos + n →
        ∃ c, s[i]? = some c ∧ set.contains c = true := by
      intro i hle hlt
      obtain ⟨j, rfl⟩ := Nat.exists_eq_add_of_le hle
      exact chars_of_lt_spanCount (Nat.lt_of_lt_of_le (by omega) hcount)
    refine ⟨Nat.le_add_right pos n, le_size_of_chars hpos fun i hle hlt => ?_, hgroups,
      fun i hle hlt => ?_⟩
    · obtain ⟨c, hc, _⟩ := hchars i hle hlt
      exact ⟨c, hc⟩
    · obtain ⟨c, hc, hset⟩ := hchars i hle hlt
      exact ⟨c, hc, set, List.mem_singleton_self set, hset⟩
  | seq first second ih₁ ih₂ =>
    intro pos groups hpos hgroups e he
    obtain ⟨e', he', he⟩ := List.mem_flatMap.1 he
    have hfirst := ih₁ pos groups hpos hgroups e' he'
    have hsecond := ih₂ e'.1 e'.2 hfirst.le_size hfirst.within e he
    exact (hfirst.mono (List.subset_append_left _ _)).trans
      (hsecond.mono (List.subset_append_right _ _))
  | either first second ih₁ ih₂ =>
    intro pos groups hpos hgroups e he
    obtain he | he := List.mem_append.1 he
    · exact (ih₁ pos groups hpos hgroups e he).mono (List.subset_append_left _ _)
    · exact (ih₂ pos groups hpos hgroups e he).mono (List.subset_append_right _ _)
  | group index body ih =>
    -- the new group spans what the body matches
    intro pos groups hpos hgroups e he
    obtain ⟨e', he', rfl⟩ := List.mem_map.1 he
    obtain ⟨hle, hsize, hwithin, hchars⟩ := ih pos groups hpos hgroups e' he'
    refine ⟨hle, hsize, fun g hg => ?_, hchars⟩
    obtain rfl | hg := List.mem_cons.1 hg
    · exact ⟨hle, hsize⟩
    · exact hwithin g hg
  | repeated body min max order ih =>
    intro pos groups hpos hgroups e he
    obtain ⟨e', he', he⟩ := List.mem_flatMap.1 he
    have hfirst := reaches_of_mem_timesEnds ih min pos groups hpos hgroups e' he'
    exact hfirst.trans
      (reaches_of_mem_moreEnds ih order _ none e'.1 e'.2 hfirst.le_size hfirst.within e he)
  | anchor a =>
    intro pos groups hpos hgroups e he
    obtain rfl := mem_ends_anchor he
    exact .refl hpos hgroups
  | look side negated body ih =>
    -- no room is taken, but groups may be added
    intro pos groups hpos hgroups e he
    obtain rfl | ⟨e', hfound, rfl⟩ := mem_ends_look he
    · exact .refl hpos hgroups
    · exact .refl hpos (within_of_mem_lookEnd? ih hpos hgroups hfound)
  | again index comparison =>
    intro pos groups hpos hgroups e he
    -- the group stands within the text, so what is matched again is as long as it
    obtain ⟨part, hpart, hat, rfl⟩ := mem_ends_again he
    obtain ⟨hle, hstop⟩ := hgroups.of_lookup hpart
    have hchars := chars_of_standsAt hat
    rw [length_text hle hstop] at hchars
    refine ⟨Nat.le_add_right _ _, le_size_of_chars hpos hchars, hgroups, fun i hi hlt => ?_⟩
    obtain ⟨c, hc⟩ := hchars i hi hlt
    exact ⟨c, hc, .all, List.mem_singleton_self _, CharSet.contains_all c⟩
  | ifGroup index yes no ih₁ ih₂ =>
    intro pos groups hpos hgroups e he
    obtain he | he := mem_ends_ifGroup he
    · exact (ih₁ pos groups hpos hgroups e he).mono (List.subset_append_left _ _)
    · exact (ih₂ pos groups hpos hgroups e he).mono (List.subset_append_right _ _)
  | atomic body ih =>
    intro pos groups hpos hgroups e he
    exact ih pos groups hpos hgroups e (List.mem_of_mem_head? (Option.mem_toList.1 he))

/-! ## Widths -/

section

variable {ends : Nat → Groups → List End} {least : Nat}

/-- Repetitions take at least as often what one of them takes at least. -/
private theorem least_le_of_mem_timesEnds
    (h : ∀ pos groups, ∀ e ∈ ends pos groups, pos + least ≤ e.1)
    (count : Nat) :
    ∀ pos groups, ∀ e ∈ timesEnds ends count pos groups, pos + least * count ≤ e.1 := by
  induction count with
  | zero =>
    intro pos groups e he
    obtain rfl := List.mem_singleton.1 he
    exact Nat.le_refl pos
  | succ count ih =>
    intro pos groups e he
    obtain ⟨e', he', he⟩ := List.mem_flatMap.1 he
    have hfirst := h pos groups e' he'
    have hrest := ih e'.1 e'.2 e he
    -- one round takes `least` characters, the others `least * count`
    rw [Nat.mul_succ]
    omega

/-- Further repetitions do not go back. -/
private theorem le_of_mem_moreEnds (h : ∀ pos groups, ∀ e ∈ ends pos groups, pos + least ≤ e.1)
    (order : Order) (rounds : Nat) (last : Option Nat) :
    ∀ pos groups, ∀ e ∈ moreEnds ends order rounds last pos groups, pos ≤ e.1 := by
  -- the induction is on the rounds that are left
  induction rounds generalizing last with
  | zero =>
    intro pos groups e he
    obtain rfl := List.mem_singleton.1 he
    exact Nat.le_refl pos
  | succ rounds ih =>
    intro pos groups e he
    obtain rfl | ⟨e', he', he⟩ := mem_moreEnds_succ he
    · exact Nat.le_refl pos
    · have hfirst := h pos groups e' he'
      have hrest := ih (some pos) e'.1 e'.2 e he
      omega

end

/-- An end of a node is at least as far away as its width says. -/
theorem least_le_of_mem_ends (s : Subject) (node : Node) :
    ∀ pos groups, ∀ e ∈ node.ends s pos groups, pos + (node.width []).least ≤ e.1 := by
  induction node with
  | empty =>
    intro pos groups e he
    obtain rfl := List.mem_singleton.1 he
    exact Nat.le_refl pos
  | one set =>
    intro pos groups e he
    obtain ⟨_, _, _, rfl⟩ := mem_ends_one he
    exact Nat.le_refl (pos + 1)
  | span set min max order =>
    intro pos groups e he
    obtain ⟨n, hmin, _, rfl⟩ := mem_spanEnds he
    simp only [Node.width, Width.times, Width.one, Nat.one_mul]
    omega
  | seq first second ih₁ ih₂ =>
    intro pos groups e he
    obtain ⟨e', he', he⟩ := List.mem_flatMap.1 he
    have hfirst := ih₁ pos groups e' he'
    have hsecond := ih₂ e'.1 e'.2 e he
    simp only [Node.width, Width.add]
    omega
  | either first second ih₁ ih₂ =>
    intro pos groups e he
    simp only [Node.width, Width.join]
    obtain he | he := List.mem_append.1 he
    · have := ih₁ pos groups e he
      omega
    · have := ih₂ pos groups e he
      omega
  | group index body ih =>
    intro pos groups e he
    obtain ⟨e', he', rfl⟩ := List.mem_map.1 he
    exact ih pos groups e' he'
  | repeated body min max order ih =>
    intro pos groups e he
    obtain ⟨e', he', he⟩ := List.mem_flatMap.1 he
    -- the rounds that may be can all be missing
    have hfirst := least_le_of_mem_timesEnds ih min pos groups e' he'
    have hrest := le_of_mem_moreEnds ih order _ none e'.1 e'.2 e he
    simp only [Node.width, Width.times]
    omega
  | anchor a =>
    intro pos groups e he
    obtain rfl := mem_ends_anchor he
    exact Nat.le_refl pos
  | look side negated body ih =>
    intro pos groups e he
    obtain rfl | ⟨_, _, rfl⟩ := mem_ends_look he
    · exact Nat.le_refl pos
    · exact Nat.le_refl pos
  | again index comparison =>
    intro pos groups e he
    obtain ⟨_, _, _, rfl⟩ := mem_ends_again he
    exact Nat.le_add_right pos _
  | ifGroup index yes no ih₁ ih₂ =>
    intro pos groups e he
    simp only [Node.width, Width.join]
    obtain he | he := mem_ends_ifGroup he
    · have := ih₁ pos groups e he
      omega
    · have := ih₂ pos groups e he
      omega
  | atomic body ih =>
    intro pos groups e he
    exact ih pos groups e (List.mem_of_mem_head? (Option.mem_toList.1 he))

/-! ## Matches -/

/-- A character of a span stands at a position of it. -/
theorem exists_of_mem_text {s : Subject} {span : Span} {c : Char} (h : c ∈ span.text s) :
    ∃ i, span.start ≤ i ∧ i < span.stop ∧ s[i]? = some c := by
  obtain ⟨n, hn⟩ := List.mem_iff_getElem?.1 h
  unfold Span.text at hn
  -- the `n`-th character of the span stands `n` characters after its start
  rw [List.getElem?_take] at hn
  split at hn
  · next hlt =>
    rw [List.getElem?_drop, Array.getElem?_toList] at hn
    exact ⟨span.start + n, Nat.le_add_right _ _, by omega, hn⟩
  · exact nomatch hn

section

variable {p : Pattern} {s : Subject} {m : Match} (h : m ∈ p.findAll s)

include h

/-- The characters up to the end of a match are from the sets of the pattern. -/
theorem reaches_of_mem_findAll :
    Reaches s p.root.sets m.span.start (m.span.stop, m.groups) := by
  obtain ⟨pos, hpos, advance, hat⟩ := exists_matchAt_of_mem_findAll h
  obtain ⟨rfl, hend⟩ := mem_ends_of_matchAt hat
  exact reaches_of_mem_ends s p.root _ [] hpos (fun _ hg => nomatch hg) _ hend

/-- The text of a match has characters of the sets of the pattern only. -/
theorem mem_sets_of_mem_text {c : Char} (hc : c ∈ m.span.text s) :
    ∃ set ∈ p.root.sets, set.contains c = true := by
  obtain ⟨i, hstart, hstop, hi⟩ := exists_of_mem_text hc
  obtain ⟨c', hc', hset⟩ := (reaches_of_mem_findAll h).chars i hstart hstop
  obtain rfl := Option.some.inj (hi.symm.trans hc')
  exact hset

/-- The text of a match is at least as long as the pattern says. -/
theorem least_le_length_text : (p.root.width []).least ≤ (m.span.text s).length := by
  have hreach := reaches_of_mem_findAll h
  obtain ⟨pos, _, advance, hat⟩ := exists_matchAt_of_mem_findAll h
  obtain ⟨rfl, hend⟩ := mem_ends_of_matchAt hat
  have hleast := least_le_of_mem_ends s p.root _ [] _ hend
  rw [length_text hreach.le hreach.le_size]
  simp only at hleast
  omega

end

end SecretScan.Pattern
