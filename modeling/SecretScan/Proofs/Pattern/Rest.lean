import SecretScan.Proofs.Pattern.Language
import SecretScan.Proofs.Pattern.Search
import SecretScan.Proofs.Text.SameAscii

/-!
# Searching in what is left

What a plain node matches at a position depends only on the text from there on. So a search for such
a node can be read as a recursion on what is left of the text, without positions: `Node.lengths` are
the lengths that are tried, in the order of preference, and `findTexts` the texts that are found.
If a node matches ASCII only, it finds the same in all texts with the same ASCII.

## Key results

- `map_ends_eq`: the ends of a plain node are its lengths, from a position on
- `map_text_findAll`: the texts of all matches are those that are found in what is left
- `findTexts_eq_of_sameAscii`: in texts with the same ASCII the same is found
-/

namespace SecretScan.Pattern

open Text

/-! ## Lengths -/

/-- How many characters of a set the text starts with, at most `max`. -/
def runLength (set : CharSet) (max : Option Nat) (rest : List Char) : Nat :=
  match max with
  | some m => min m (rest.takeWhile set.contains).length
  | none => (rest.takeWhile set.contains).length

/-- The lengths of what a plain node matches at the start of a text, in the order of preference. -/
def Node.lengths : Node → List Char → List Nat
  | .empty, _ => [0]
  | .one set, rest => if rest.head?.any set.contains then [1] else []
  | .span set min max order, rest =>
    if runLength set max rest < min then [] else countsTried order min (runLength set max rest)
  | .seq first second, rest =>
    (first.lengths rest).flatMap fun n => (second.lengths (rest.drop n)).map (n + ·)
  | .either first second, rest => first.lengths rest ++ second.lengths rest
  | .group _ body, rest => body.lengths rest
  | _, _ => []

/-- How far a run goes is decided by the characters that follow. -/
private theorem spanLength_go_eq (s : Subject) (set : CharSet) (pos limit found : Nat) :
    spanLength.go s set pos limit found =
      found + min limit ((s.toList.drop (pos + found)).takeWhile set.contains).length := by
  -- the induction is on the characters that the run may still take
  induction limit generalizing found with
  | zero => simp [spanLength.go]
  | succ limit ih =>
    unfold spanLength.go
    cases hc : s[pos + found]? with
    | none =>
      have hend : s.toList.drop (pos + found) = [] := by
        rw [List.drop_eq_nil_iff, Array.length_toList]
        exact Array.getElem?_eq_none_iff.1 hc
      simp [hend]
    | some c =>
      have hrest : s.toList.drop (pos + found) = c :: s.toList.drop (pos + (found + 1)) := by
        rw [← Array.getElem?_toList] at hc
        obtain ⟨hlt, rfl⟩ := List.getElem?_eq_some_iff.1 hc
        exact List.drop_eq_getElem_cons hlt
      rw [hrest, List.takeWhile_cons]
      simp only
      split
      · rw [ih, List.length_cons]
        omega
      · simp

/-- The length of a run, read off what follows. -/
private theorem spanCount_eq (s : Subject) (set : CharSet) (max : Option Nat) (pos : Nat) :
    spanCount s set max pos = runLength set max (s.toList.drop pos) := by
  -- the run cannot be longer than what is left of the subject
  have hle : ((s.toList.drop pos).takeWhile set.contains).length ≤ s.size - pos := by
    have hprefix := (List.takeWhile_prefix set.contains (l := s.toList.drop pos)).length_le
    rwa [List.length_drop, Array.length_toList] at hprefix
  unfold spanCount spanLength runLength
  rw [spanLength_go_eq, Nat.add_zero, Nat.zero_add]
  cases max with
  | none => exact Nat.min_eq_right hle
  | some m =>
    show min (min m (s.size - pos)) _ = min m _
    omega

/-- The ends of a plain node are its lengths, from a position on. -/
theorem map_ends_eq (s : Subject) {node : Node} (hplain : node.isPlain = true) :
    ∀ pos groups, (node.ends s pos groups).map (·.1) =
      (node.lengths (s.toList.drop pos)).map (pos + ·) := by
  induction node with
  | empty => exact fun _ _ => rfl
  | one set =>
    intro pos groups
    unfold Node.ends Node.lengths
    rw [List.head?_drop, Array.getElem?_toList]
    cases s[pos]? with
    | none => rfl
    | some c =>
      simp only [Option.any_some]
      split <;> rfl
  | span set min max order =>
    intro pos groups
    unfold Node.ends Node.lengths spanEnds
    rw [spanCount_eq]
    split
    · rfl
    · rw [List.map_map]
      rfl
  | seq first second ih₁ ih₂ =>
    intro pos groups
    obtain ⟨hplain₁, hplain₂⟩ := (Bool.and_eq_true _ _).mp hplain
    -- only the position counts for the second part
    calc ((Node.seq first second).ends s pos groups).map (·.1)
        = ((first.ends s pos groups).map (·.1)).flatMap fun stop =>
            (second.lengths (s.toList.drop stop)).map (stop + ·) := by
          rw [List.flatMap_map]
          simp only [Node.ends, List.map_flatMap, ih₂ hplain₂]
      _ = (first.lengths (s.toList.drop pos)).flatMap fun n =>
            (second.lengths ((s.toList.drop pos).drop n)).map (pos + n + ·) := by
          rw [ih₁ hplain₁, List.flatMap_map]
          simp only [List.drop_drop]
      _ = ((Node.seq first second).lengths (s.toList.drop pos)).map (pos + ·) := by
          simp only [Node.lengths, List.map_flatMap, List.map_map, Function.comp_def,
            Nat.add_assoc]
  | either first second ih₁ ih₂ =>
    intro pos groups
    obtain ⟨hplain₁, hplain₂⟩ := (Bool.and_eq_true _ _).mp hplain
    unfold Node.ends Node.lengths
    rw [List.map_append, List.map_append, ih₁ hplain₁, ih₂ hplain₂]
  | group index body ih =>
    intro pos groups
    unfold Node.ends Node.lengths
    rw [List.map_map]
    exact ih hplain pos groups
  | repeated | anchor | look | again | ifGroup | atomic => cases hplain

/-- Up to a length stand characters of the sets of the node, at least as many as its width says. -/
private theorem reaches_of_mem_lengths {node : Node} (hplain : node.isPlain = true)
    {rest : List Char}
    {n : Nat} (h : n ∈ node.lengths rest) :
    (node.width []).least ≤ n ∧ ∃ groups, Reaches rest.toArray node.sets 0 (n, groups) := by
  -- the lengths are the ends from the start of the rest, without the groups
  have hends := map_ends_eq rest.toArray hplain 0 []
  simp only [Nat.zero_add, List.map_id', List.drop_zero] at hends
  rw [← hends] at h
  obtain ⟨⟨stop, groups⟩, he, rfl⟩ := List.mem_map.1 h
  have hleast := least_le_of_mem_ends rest.toArray node 0 [] _ he
  rw [Nat.zero_add] at hleast
  exact ⟨hleast, groups, reaches_of_mem_ends rest.toArray node 0 [] (Nat.zero_le _)
    (fun _ hg => nomatch hg) _ he⟩

/-! ## Searching -/

/-- The texts that a search for a node finds, which goes on behind what it has found. -/
def findTexts (node : Node) : List Char → List (List Char)
  | [] => []
  | c :: cs =>
    match (node.lengths (c :: cs)).head? with
    | some (n + 1) => (c :: cs.take n) :: findTexts node (cs.drop n)
    | _ => findTexts node cs
termination_by rest => rest.length
decreasing_by
  all_goals simp only [List.length_drop, List.length_cons]; omega

section

variable {p : Pattern} (hplain : p.root.isPlain = true) {s : Subject} {pos : Nat}

include hplain

/-- The match at a position has the first of the lengths. -/
private theorem map_span_matchAt :
    (p.matchAt s false pos).map (·.span) =
      (p.root.lengths (s.toList.drop pos)).head?.map fun n => ⟨pos, pos + n⟩ := by
  -- the first end and the first length belong together
  have hhead : (p.root.ends s pos []).head?.map (·.1) =
      (p.root.lengths (s.toList.drop pos)).head?.map (pos + ·) := by
    rw [← List.head?_map, map_ends_eq s hplain, List.head?_map]
  have hspan := congrArg (Option.map fun stop => (⟨pos, stop⟩ : Span)) hhead
  rw [Option.map_map, Option.map_map] at hspan
  rw [matchAt_eq_head?, Option.map_map]
  exact hspan

/-- Where nothing matches, the search goes on at the next character. -/
private theorem findTexts_of_matchAt_none (h : p.matchAt s false pos = none) :
    findTexts p.root (s.toList.drop pos) = findTexts p.root (s.toList.drop (pos + 1)) := by
  -- without a match here there is no first length, and the search moves on
  have hspan : (p.matchAt s false pos).map (·.span) = _ := map_span_matchAt hplain
  rw [h, Option.map_none, eq_comm, Option.map_eq_none_iff] at hspan
  rw [← List.drop_drop]
  cases hrest : s.toList.drop pos with
  | nil => rfl
  | cons c cs =>
    rw [hrest] at hspan
    rw [findTexts, hspan]
    rfl

variable (hpos : 1 ≤ (p.root.width []).least)

include hpos

/-- Where something matches, the search goes on at its end. -/
private theorem findTexts_of_matchAt_some {m : Match} (h : p.matchAt s false pos = some m) :
    findTexts p.root (s.toList.drop pos) =
      m.span.text s :: findTexts p.root (s.toList.drop m.span.stop) := by
  have hlt := start_lt_stop_of_matchAt hpos h
  have hspan : (p.matchAt s false pos).map (·.span) = _ := map_span_matchAt hplain
  rw [h, Option.map_some, eq_comm, Option.map_eq_some_iff] at hspan
  obtain ⟨n, hn, hm⟩ := hspan
  rw [← hm] at hlt ⊢
  simp only at hlt ⊢
  obtain ⟨n, rfl⟩ := Nat.exists_eq_succ_of_ne_zero (n := n) (by omega)
  unfold Span.text
  rw [← List.drop_drop, Nat.add_sub_cancel_left]
  cases hrest : s.toList.drop pos with
  | nil =>
    -- nothing is left to match
    rw [hrest] at hn
    obtain ⟨_, _, hreach⟩ := reaches_of_mem_lengths hplain (List.mem_of_mem_head? hn)
    exact absurd hreach.le_size (Nat.not_succ_le_zero n)
  | cons c cs =>
    rw [hrest] at hn
    rw [findTexts, hn]
    rfl

/-- What a search has found when it has looked at the remaining positions. -/
private theorem map_text_foldl_step (k : Nat) : ∀ pos (state : Progress), pos + k = s.size + 1 →
    ((List.range' pos k).foldl (Progress.step p s) state).found.toList.map (·.span.text s) =
      state.found.toList.map (·.span.text s) ++
        findTexts p.root (s.toList.drop (max pos state.free)) := by
  -- the induction is on the positions that are left; what is found so far stays
  induction k with
  | zero =>
    intro pos state hk
    have hend : s.toList.drop (max pos state.free) = [] := by
      rw [List.drop_eq_nil_iff, Array.length_toList]
      omega
    rw [hend, findTexts, List.append_nil]
    rfl
  | succ k ih =>
    intro pos state hk
    rw [List.range'_succ, List.foldl_cons, ih (pos + 1) _ (by omega)]
    obtain ⟨hlt, heq⟩ | ⟨hfree, hnone, heq⟩ | ⟨m, hfree, hat, heq⟩ :=
      Progress.step_cases hpos (s := s) state pos
    · -- the position lies within the last match
      rw [heq, Nat.max_eq_right hlt, Nat.max_eq_right (Nat.le_of_lt hlt)]
    · -- nothing matches here
      rw [heq, Nat.max_eq_left hfree, Nat.max_eq_left (by omega),
        findTexts_of_matchAt_none hplain hnone]
    · -- a match is found, and the search goes on at its end
      have hstart := (mem_ends_of_matchAt hat).1
      have hstop := start_lt_stop_of_matchAt hpos hat
      rw [heq, Nat.max_eq_left hfree, Nat.max_eq_right (by omega : pos + 1 ≤ m.span.stop),
        findTexts_of_matchAt_some hplain hpos hat, Array.toList_push, List.map_append,
        List.append_assoc]
      rfl

/-- The texts of all matches are those that are found in what is left. -/
theorem map_text_findAll (s : Subject) :
    (p.findAll s).map (·.span.text s) = findTexts p.root s.toList := by
  have hall := map_text_foldl_step hplain hpos (s := s) (s.size + 1) 0 ⟨0, #[]⟩ (Nat.zero_add _)
  rw [← List.range_eq_range'] at hall
  exact hall

end

/-! ## Texts with the same ASCII -/

/-- Does a set have no character outside of ASCII? -/
def CharSet.IsAscii (set : CharSet) : Prop :=
  ∀ c, set.contains c = true → c.toNat < 128

/-- Is this a range of ASCII? -/
def SetItem.isAsciiRange : SetItem → Bool
  | .range _ last => last < 128
  | .property _ _ => false

/-- A set of ranges of ASCII has no other characters, as long as case counts. -/
theorem CharSet.isAscii_of_ranges {set : CharSet} (hexact : set.comparison = .exact)
    (hnegated : set.negated = false) (hitems : ∀ item ∈ set.items, item.isAsciiRange = true) :
    set.IsAscii := by
  intro c hc
  simp only [contains, lists, hexact, hnegated, Bool.bne_false, List.any_eq_true] at hc
  -- only a range of ASCII characters is admitted
  obtain ⟨item, hitem, hlists⟩ := hc
  have hascii := hitems item hitem
  cases item with
  | range first last =>
    simp only [SetItem.lists, Comparison.sameAs, List.any_cons, List.any_nil, Bool.or_false,
      Bool.and_eq_true, decide_eq_true_eq] at hlists
    have hlast : last < 128 := of_decide_eq_true hascii
    omega
  | property => cases hascii

/-- One character is a run of one. -/
private theorem lengths_one (set : CharSet) (rest : List Char) :
    (Node.one set).lengths rest = (Node.span set 1 (some 1) .greedy).lengths rest := by
  unfold Node.lengths runLength
  cases rest with
  | nil => rfl
  | cons c cs =>
    rw [List.takeWhile_cons, List.head?_cons, Option.any_some]
    -- whether the one character is of the set decides both
    by_cases hc : set.contains c = true
    · have hone : min 1 (c :: cs.takeWhile set.contains).length = 1 := by
        rw [List.length_cons]
        omega
      simp only [hc, if_true, hone]
      rfl
    · simp only [hc]
      rfl

/-- Runs over texts that agree in ASCII are of the same lengths. -/
private theorem lengths_span_eq {set : CharSet} (hset : set.IsAscii) (min : Nat) (max : Option Nat)
    (order : Order) {t u : List Char} (h : SameAscii t u) :
    (Node.span set min max order).lengths t = (Node.span set min max order).lengths u ∧
      ∀ n ∈ (Node.span set min max order).lengths t,
        t.take n = u.take n ∧ SameAscii (t.drop n) (u.drop n) := by
  obtain ⟨heq, hparts⟩ := h.takeWhile_eq hset
  -- the runs are of the same length, as they are of the same characters
  have hrun : runLength set max t = runLength set max u := by
    unfold runLength
    rw [heq]
  have hle : runLength set max t ≤ (t.takeWhile set.contains).length := by
    unfold runLength
    split <;> omega
  simp only [Node.lengths]
  rw [← hrun]
  refine ⟨rfl, fun n hn => ?_⟩
  -- every end that is tried lies within the run
  split at hn
  · exact nomatch hn
  · next hmin =>
    have hcount := (mem_countsTried (Nat.le_of_not_lt hmin) hn).2
    exact hparts n (Nat.le_trans hcount hle)

/-- A node that matches ASCII only has the same lengths in texts with the same ASCII, which agree on
what is matched and on what is left. -/
private theorem lengths_eq_of_sameAscii {node : Node} (hplain : node.isPlain = true)
    (hascii : ∀ set ∈ node.sets, set.IsAscii) {t u : List Char} (h : SameAscii t u) :
    node.lengths t = node.lengths u ∧
      ∀ n ∈ node.lengths t, t.take n = u.take n ∧ SameAscii (t.drop n) (u.drop n) := by
  -- by induction on the node; the second part of a sequence looks at what the first one left
  induction node generalizing t u with
  | empty =>
    refine ⟨rfl, fun n hn => ?_⟩
    obtain rfl := List.mem_singleton.1 hn
    exact ⟨rfl, h⟩
  | one set =>
    rw [lengths_one, lengths_one]
    exact lengths_span_eq (hascii set (List.mem_singleton_self set)) 1 (some 1) .greedy h
  | span set min max order =>
    exact lengths_span_eq (hascii set (List.mem_singleton_self set)) min max order h
  | seq first second ih₁ ih₂ =>
    obtain ⟨hplain₁, hplain₂⟩ := (Bool.and_eq_true _ _).mp hplain
    have hfirst := ih₁ hplain₁ (fun set hset => hascii set (List.mem_append_left _ hset)) h
    have hsecond : ∀ n ∈ first.lengths t, second.lengths (t.drop n) = second.lengths (u.drop n) ∧
        ∀ k ∈ second.lengths (t.drop n), (t.drop n).take k = (u.drop n).take k ∧
          SameAscii ((t.drop n).drop k) ((u.drop n).drop k) := fun n hn =>
      ih₂ hplain₂ (fun set hset => hascii set (List.mem_append_right _ hset)) (hfirst.2 n hn).2
    simp only [Node.lengths]
    constructor
    · rw [← hfirst.1]
      refine List.flatMap_congr fun n hn => ?_
      rw [(hsecond n hn).1]
    · intro n hn
      obtain ⟨i, hi, hn⟩ := List.mem_flatMap.1 hn
      obtain ⟨k, hk, rfl⟩ := List.mem_map.1 hn
      obtain ⟨htake, hdrop⟩ := (hsecond i hi).2 k hk
      rw [List.drop_drop, List.drop_drop] at hdrop
      refine ⟨?_, hdrop⟩
      rw [List.take_add, List.take_add, (hfirst.2 i hi).1, htake]
  | either first second ih₁ ih₂ =>
    obtain ⟨hplain₁, hplain₂⟩ := (Bool.and_eq_true _ _).mp hplain
    obtain ⟨heq₁, hparts₁⟩ :=
      ih₁ hplain₁ (fun set hset => hascii set (List.mem_append_left _ hset)) h
    obtain ⟨heq₂, hparts₂⟩ :=
      ih₂ hplain₂ (fun set hset => hascii set (List.mem_append_right _ hset)) h
    simp only [Node.lengths]
    refine ⟨by rw [heq₁, heq₂], fun n hn => ?_⟩
    obtain hn | hn := List.mem_append.1 hn
    · exact hparts₁ n hn
    · exact hparts₂ n hn
  | group index body ih => exact ih hplain hascii h
  | repeated | anchor | look | again | ifGroup | atomic => exact nomatch hplain

section

variable {node : Node} (hplain : node.isPlain = true) (hascii : ∀ set ∈ node.sets, set.IsAscii)
  (hpos : 1 ≤ (node.width []).least)

include hplain hascii hpos

/-- Such a node matches nothing where a foreign character is. -/
private theorem lengths_of_foreign {c : Char} (hc : 128 ≤ c.toNat) (cs : List Char) :
    node.lengths (c :: cs) = [] := by
  refine List.eq_nil_iff_forall_not_mem.2 fun n hn => ?_
  obtain ⟨hleast, _, hreach⟩ := reaches_of_mem_lengths hplain hn
  -- the first character of an end is in some set of the pattern, and those hold no such one
  obtain ⟨d, hd, set, hset, hcontains⟩ :=
    hreach.chars 0 (Nat.le_refl 0) (Nat.lt_of_lt_of_le hpos hleast)
  obtain rfl := Option.some.inj hd
  have hlt := hascii set hset c hcontains
  omega

/-- Foreign characters before a text hold no match. -/
private theorem findTexts_foreign_append {x : List Char} (hx : ∀ c ∈ x, 128 ≤ c.toNat)
    (t : List Char) :
    findTexts node (x ++ t) = findTexts node t := by
  induction x with
  | nil => rfl
  | cons c x ih =>
    have hnone := lengths_of_foreign hplain hascii hpos (hx c List.mem_cons_self) (x ++ t)
    rw [List.cons_append, findTexts, hnone]
    exact ih fun d hd => hx d (List.mem_cons_of_mem c hd)

/-- In texts with the same ASCII the same is found. -/
theorem findTexts_eq_of_sameAscii {t u : List Char} (h : SameAscii t u) :
    findTexts node t = findTexts node u := by
  -- the induction is on the length, since a match takes several characters at once
  induction hlength : t.length using Nat.strong_induction_on generalizing t u with
  | _ k ih =>
    cases h with
    | nil => rfl
    | @ascii c t u hc h =>
      -- the first characters are equal, so both texts match alike
      obtain ⟨heq, hparts⟩ := lengths_eq_of_sameAscii hplain hascii (SameAscii.ascii hc h)
      rw [List.length_cons] at hlength
      rw [findTexts, findTexts, ← heq]
      cases hhead : (node.lengths (c :: t)).head? with
      | none => exact ih _ (by omega) h rfl
      | some n =>
        cases n with
        | zero => exact ih _ (by omega) h rfl
        | succ n =>
          obtain ⟨htake, hdrop⟩ := hparts (n + 1) (List.mem_of_mem_head? hhead)
          rw [List.take_succ_cons, List.take_succ_cons] at htake
          rw [List.drop_succ_cons, List.drop_succ_cons] at hdrop
          have hshort : (t.drop n).length < k := by
            rw [List.length_drop]
            omega
          simp only
          rw [htake, ih _ hshort hdrop rfl]
    | @foreign x y t u hx hy h =>
      -- foreign characters match nothing, in whatever number they are
      have hpos' := List.length_pos_iff.2 hx.ne_nil
      rw [List.length_append] at hlength
      rw [findTexts_foreign_append hplain hascii hpos hx.le_toNat,
        findTexts_foreign_append hplain hascii hpos hy.le_toNat]
      exact ih _ (by omega) h rfl

end

end SecretScan.Pattern
