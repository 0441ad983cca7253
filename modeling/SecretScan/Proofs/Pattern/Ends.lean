import SecretScan.Pattern.Matching

/-!
# The ends of a node

`Node.run` is given what to do after a node has matched, and tries it at one end of the node after
the other. `Node.ends` is the list of these ends, in the order of preference: a search is the first
success over that list (`run_eq_findSome?`), and what holds of every end holds of every match.

## Key results

- `run_eq_findSome?`: matching a node and going on is a search through the ends of the node
- `mem_ends_one` to `mem_ends_ifGroup`: what an end of a node can be, kind by kind
- `mem_ends_of_matchAt`: a match that is found ends at an end of the root
- `exists_matchAt_of_mem_findAll`: all matches of a pattern in a text are found at positions of it
-/

namespace SecretScan.Pattern

/-! ## Ends -/

/-- How many characters a repetition takes, of `min` to `count`, in the order of preference. -/
def countsTried (order : Order) (min count : Nat) : List Nat :=
  match order with
  | .greedy => (List.range (count - min + 1)).map (count - ·)
  | .lazy => (List.range (count - min + 1)).map (min + ·)

/-- How many characters of a set can be taken at a position, at most `max`. -/
def spanCount (s : Subject) (set : CharSet) (max : Option Nat) (pos : Nat) : Nat :=
  spanLength s set
    (match max with | some m => Nat.min m (s.size - pos) | none => s.size - pos) pos

/-- The ends of characters of a set in a row. -/
def spanEnds (s : Subject) (set : CharSet) (min : Nat) (max : Option Nat) (order : Order)
    (pos : Nat) (groups : Groups) : List End :=
  if spanCount s set max pos < min then []
  else (countsTried order min (spanCount s set max pos)).map fun n => (pos + n, groups)

/-- The ends of a part that is matched `count` times. -/
def timesEnds (ends : Nat → Groups → List End) : (count : Nat) → Nat → Groups → List End
  | 0, pos, groups => [(pos, groups)]
  | count + 1, pos, groups => (ends pos groups).flatMap fun e => timesEnds ends count e.1 e.2

/-- The ends of a part that is matched up to `rounds` times more. -/
def moreEnds (ends : Nat → Groups → List End) (order : Order) :
    (rounds : Nat) → (last : Option Nat) → Nat → Groups → List End
  | 0, _, pos, groups => [(pos, groups)]
  | rounds + 1, last, pos, groups =>
    if last = some pos then [(pos, groups)]
    else
      let again := (ends pos groups).flatMap fun e =>
        moreEnds ends order rounds (some pos) e.1 e.2
      match order with
      | .greedy => again ++ [(pos, groups)]
      | .lazy => (pos, groups) :: again

/-- The first end of what a look-around looks at. -/
def lookEnd? (ends : Nat → Groups → List End) (side : Side) (pos : Nat) (groups : Groups) :
    Option End :=
  match side with
  | .ahead => (ends pos groups).head?
  | .behind width => if width ≤ pos then (ends (pos - width) groups).head? else none

/-- The ends of a node at a position, in the order of preference. -/
def Node.ends (s : Subject) : Node → Nat → Groups → List End
  | .empty, pos, groups => [(pos, groups)]
  | .one set, pos, groups =>
    match s[pos]? with
    | some c => if set.contains c then [(pos + 1, groups)] else []
    | none => []
  | .span set min max order, pos, groups => spanEnds s set min max order pos groups
  | .seq first second, pos, groups =>
    (first.ends s pos groups).flatMap fun e => second.ends s e.1 e.2
  | .either first second, pos, groups => first.ends s pos groups ++ second.ends s pos groups
  | .group index body, pos, groups =>
    (body.ends s pos groups).map fun e => (e.1, (index, ⟨pos, e.1⟩) :: e.2)
  | .repeated body min max order, pos, groups =>
    (timesEnds (body.ends s) min pos groups).flatMap fun e =>
      let rounds := match max with
        | some m => Nat.min (m - min) (s.size - e.1 + 1)
        | none => s.size - e.1 + 1
      moreEnds (body.ends s) order rounds none e.1 e.2
  | .anchor a, pos, groups => if a.holds s pos then [(pos, groups)] else []
  | .look side negated body, pos, groups =>
    match lookEnd? (body.ends s) side pos groups with
    | some e => if negated then [] else [(pos, e.2)]
    | none => if negated then [(pos, groups)] else []
  | .again index comparison, pos, groups =>
    match groups.lookup index with
    | some part =>
      if standsAt s comparison pos (part.text s) then [(pos + (part.stop - part.start), groups)]
      else []
    | none => []
  | .ifGroup index yes no, pos, groups =>
    if (groups.lookup index).isSome then yes.ends s pos groups else no.ends s pos groups
  | .atomic body, pos, groups => (body.ends s pos groups).head?.toList

/-! ## Searching is trying the ends -/

/-- The first answer from lists joined together comes from the first list that has one. -/
theorem findSome?_flatMap {α β γ : Type} (l : List α) (g : α → List β) (f : β → Option γ) :
    (l.flatMap g).findSome? f = l.findSome? fun a => (g a).findSome? f := by
  induction l with
  | nil => rfl
  | cons a l ih =>
    rw [List.flatMap_cons, List.findSome?_append, ih, List.findSome?_cons]
    cases (g a).findSome? f <;> rfl

private theorem findSome?_some_eq_head? {α : Type} (l : List α) : l.findSome? some = l.head? := by
  cases l <;> rfl

/-- What is counted from zero, with the first one apart. -/
theorem map_range_succ {α : Type} (f : Nat → α) (n : Nat) :
    (List.range (n + 1)).map f = f 0 :: (List.range n).map fun i => f (i + 1) := by
  rw [List.range_succ_eq_map, List.map_cons, List.map_map]
  rfl

/-- Trying ever fewer repetitions takes the first count that succeeds. -/
private theorem tryDown_eq_findSome? (attempt : Nat → Option End) (count more : Nat) :
    tryDown attempt count more = ((List.range (more + 1)).map (count - ·)).findSome? attempt := by
  induction more generalizing count with
  | zero => simp [tryDown]
  | succ more ih =>
    -- the first attempt is at `count`, the others are those that start one lower
    have hrest : (fun i => count - (i + 1)) = fun i => count - 1 - i := by
      funext i
      omega
    rw [tryDown, ih, map_range_succ _ (more + 1), hrest, List.findSome?_cons, Nat.sub_zero]
    cases attempt count <;> rfl

/-- Trying ever more repetitions takes the first count that succeeds. -/
private theorem tryUp_eq_findSome? (attempt : Nat → Option End) (count more : Nat) :
    tryUp attempt count more = ((List.range (more + 1)).map (count + ·)).findSome? attempt := by
  induction more generalizing count with
  | zero => simp [tryUp]
  | succ more ih =>
    -- what is tried after the first count is what is tried from the next count on
    have hrest : (fun i => count + (i + 1)) = fun i => count + 1 + i := by
      funext i
      omega
    rw [tryUp, ih, map_range_succ _ (more + 1), hrest, List.findSome?_cons, Nat.add_zero]
    cases attempt count <;> rfl

/-- A run of characters goes on from the first of its ends from which the rest succeeds. -/
private theorem runSpan_eq_findSome? (s : Subject) (set : CharSet) (min : Nat) (max : Option Nat)
    (order : Order) (pos : Nat) (groups : Groups) (next : Next) :
    runSpan s set min max order pos groups next =
      (spanEnds s set min max order pos groups).findSome? fun e => next e.1 e.2 := by
  have hrun : runSpan s set min max order pos groups next =
      if spanCount s set max pos < min then none
      else (countsTried order min (spanCount s set max pos)).findSome?
        fun n => next (pos + n) groups := by
    cases order with
    | greedy => simp only [countsTried, ← tryDown_eq_findSome?]; rfl
    | lazy => simp only [countsTried, ← tryUp_eq_findSome?]; rfl
  -- an attempt is at an end
  rw [hrun, spanEnds]
  split
  · rfl
  · rw [List.findSome?_map]
    rfl

section

variable {body : Nat → Groups → Next → Option End} {ends : Nat → Groups → List End}
  (h : ∀ pos groups next,
    body pos groups next = (ends pos groups).findSome? fun e => next e.1 e.2)

include h

/-- A fixed number of repetitions goes on from the first of their ends. -/
private theorem runTimes_eq_findSome? (count pos : Nat) (groups : Groups) (next : Next) :
    runTimes body count pos groups next =
      (timesEnds ends count pos groups).findSome? fun e => next e.1 e.2 := by
  induction count generalizing pos groups with
  | zero => simp [runTimes, timesEnds]
  | succ count ih => simp only [runTimes, timesEnds, h, ih, findSome?_flatMap]

/-- An open number of repetitions goes on from the first of their ends. -/
private theorem runMore_eq_findSome? (order : Order) (rounds : Nat) (last : Option Nat) (pos : Nat)
    (groups : Groups) (next : Next) :
    runMore body order rounds last pos groups next =
      (moreEnds ends order rounds last pos groups).findSome? fun e => next e.1 e.2 := by
  induction rounds generalizing last pos groups with
  | zero => simp [runMore, moreEnds]
  | succ rounds ih =>
    unfold runMore moreEnds
    split
    · simp
    · cases order with
      | greedy =>
        -- greedy: another round comes before going on
        simp only [h, ih, List.findSome?_append, findSome?_flatMap, List.findSome?_singleton]
        generalize List.findSome? _ (ends pos groups) = first
        cases first <;> rfl
      | lazy =>
        -- lazy: going on comes before another round
        simp only [h, ih, List.findSome?_cons, findSome?_flatMap]
        cases next pos groups <;> rfl

end

/-- The first match of a node ends at its first end. -/
theorem findSome?_end_eq_head? (l : List End) :
    (l.findSome? fun e => (some (e.1, e.2) : Option End)) = l.head? :=
  findSome?_some_eq_head? l

/-- Matching a node and going on is a search through the ends of the node. -/
theorem run_eq_findSome? (s : Subject) (node : Node) (pos : Nat) (groups : Groups) (next : Next) :
    node.run s pos groups next = (node.ends s pos groups).findSome? fun e => next e.1 e.2 := by
  -- by induction on the node, for all continuations: a part goes on with the rest of its node
  induction node generalizing pos groups next with
  | empty => simp [Node.run, Node.ends]
  | one set =>
    simp only [Node.run, Node.ends]
    cases s[pos]? with
    | none => rfl
    | some c => cases hc : set.contains c <;> simp [hc]
  | span set min max order => exact runSpan_eq_findSome? s set min max order pos groups next
  | seq first second ih₁ ih₂ => simp only [Node.run, Node.ends, ih₁, ih₂, findSome?_flatMap]
  | either first second ih₁ ih₂ =>
    -- the second choice is tried where no end of the first leads on
    simp only [Node.run, Node.ends, ih₁, ih₂, List.findSome?_append]
    generalize (first.ends s pos groups).findSome? _ = found
    cases found <;> rfl
  | group index body ih =>
    simp only [Node.run, Node.ends, ih, List.findSome?_map]
    rfl
  | repeated body min max order ih =>
    -- first the rounds that must be, then from each of their ends those that may be
    unfold Node.run Node.ends
    rw [runTimes_eq_findSome? ih, findSome?_flatMap]
    refine congrArg (fun f => List.findSome? f _) (funext fun e => ?_)
    exact runMore_eq_findSome? ih order _ none e.1 e.2 next
  | anchor a =>
    simp only [Node.run, Node.ends]
    cases a.holds s pos <;> simp
  | look side negated body ih =>
    -- what the body finds is its first end, wherever it looks
    cases side with
    | ahead =>
      simp only [Node.run, Node.ends, lookEnd?, ih, findSome?_end_eq_head?]
      cases (body.ends s pos groups).head? <;> cases negated <;> simp
    | behind width =>
      simp only [Node.run, Node.ends, lookEnd?, ih, findSome?_end_eq_head?]
      generalize (if width ≤ pos then (body.ends s (pos - width) groups).head? else none) = found
      cases found <;> cases negated <;> simp
  | again index comparison =>
    simp only [Node.run, Node.ends]
    cases groups.lookup index with
    | none => rfl
    | some part => cases hat : standsAt s comparison pos (part.text s) <;> simp [hat]
  | ifGroup index yes no ih₁ ih₂ =>
    simp only [Node.run, Node.ends, ih₁, ih₂]
    split <;> rfl
  | atomic body ih =>
    simp only [Node.run, Node.ends, ih, findSome?_end_eq_head?]
    cases (body.ends s pos groups).head? <;> simp

/-! ## What an end can be -/

section

variable {s : Subject} {pos : Nat} {groups : Groups} {e : End}

/-- A character of a set goes one position on, and closes no group. -/
theorem mem_ends_one {set : CharSet} (h : e ∈ (Node.one set).ends s pos groups) :
    ∃ c, s[pos]? = some c ∧ set.contains c = true ∧ e = (pos + 1, groups) := by
  unfold Node.ends at h
  -- the next character has to be there and in the set
  split at h
  · next c hc =>
    split at h
    · next hset => exact ⟨c, hc, hset, List.mem_singleton.1 h⟩
    · cases h
  · cases h

/-- The counts that are tried lie between the bounds. -/
theorem mem_countsTried {order : Order} {min count n : Nat} (hle : min ≤ count)
    (h : n ∈ countsTried order min count) : min ≤ n ∧ n ≤ count := by
  -- the counts go up or down between the same bounds
  cases order with
  | greedy =>
    obtain ⟨i, hi, rfl⟩ := List.mem_map.1 h
    have := List.mem_range.1 hi
    omega
  | lazy =>
    obtain ⟨i, hi, rfl⟩ := List.mem_map.1 h
    have := List.mem_range.1 hi
    omega

/-- A run ends so many positions on, within its bounds, and closes no group. -/
theorem mem_spanEnds {set : CharSet} {min : Nat} {max : Option Nat} {order : Order}
    (h : e ∈ spanEnds s set min max order pos groups) :
    ∃ n, min ≤ n ∧ n ≤ spanCount s set max pos ∧ e = (pos + n, groups) := by
  unfold spanEnds at h
  -- too few characters are no end; otherwise there is one for each count
  split at h
  · cases h
  · next hle =>
    obtain ⟨n, hn, rfl⟩ := List.mem_map.1 h
    obtain ⟨hmin, hcount⟩ := mem_countsTried (Nat.le_of_not_lt hle) hn
    exact ⟨n, hmin, hcount, rfl⟩

/-- A further round begins at an end of the part, or there is none. -/
theorem mem_moreEnds_succ {ends : Nat → Groups → List End} {order : Order} {rounds : Nat}
    {last : Option Nat} (h : e ∈ moreEnds ends order (rounds + 1) last pos groups) :
    e = (pos, groups) ∨
      ∃ e' ∈ ends pos groups, e ∈ moreEnds ends order rounds (some pos) e'.1 e'.2 := by
  unfold moreEnds at h
  split at h
  · exact .inl (List.mem_singleton.1 h)
  · -- a greedy repetition tries another round first, a lazy one does last
    cases order with
    | greedy =>
      obtain h | h := List.mem_append.1 h
      · exact .inr (List.mem_flatMap.1 h)
      · exact .inl (List.mem_singleton.1 h)
    | lazy =>
      obtain h | h := List.mem_cons.1 h
      · exact .inl h
      · exact .inr (List.mem_flatMap.1 h)

/-- After a group, its number stands for what it took. -/
theorem lookup_of_mem_ends_group {index : Nat} {body : Node}
    (h : e ∈ (Node.group index body).ends s pos groups) : e.2.lookup index = some ⟨pos, e.1⟩ := by
  obtain ⟨e', _, rfl⟩ := List.mem_map.1 h
  exact List.lookup_cons_self

/-- An anchor ends where it starts. -/
theorem mem_ends_anchor {a : Anchor} (h : e ∈ (Node.anchor a).ends s pos groups) :
    e = (pos, groups) := by
  unfold Node.ends at h
  split at h
  · exact List.mem_singleton.1 h
  · cases h

/-- A look-around takes no room; at most it adds the groups of what it finds. -/
theorem mem_ends_look {side : Side} {negated : Bool} {body : Node}
    (h : e ∈ (Node.look side negated body).ends s pos groups) :
    e = (pos, groups) ∨
      ∃ e', lookEnd? (body.ends s) side pos groups = some e' ∧ e = (pos, e'.2) := by
  unfold Node.ends at h
  split at h
  · -- the body is found, which a positive look needs and a negative one forbids
    next e' hfound =>
    split at h
    · cases h
    · exact .inr ⟨e', hfound, List.mem_singleton.1 h⟩
  · split at h
    · exact .inl (List.mem_singleton.1 h)
    · cases h

/-- A reference to a group ends after the text of the group, which stands there again. -/
theorem mem_ends_again {index : Nat} {comparison : Comparison}
    (h : e ∈ (Node.again index comparison).ends s pos groups) :
    ∃ part, groups.lookup index = some part ∧
      standsAt s comparison pos (part.text s) = true ∧
      e = (pos + (part.stop - part.start), groups) := by
  unfold Node.ends at h
  -- the group has to be set, and its text has to stand here again
  split at h
  · next part hpart =>
    split at h
    · next hat => exact ⟨part, hpart, hat, List.mem_singleton.1 h⟩
    · cases h
  · cases h

/-- A condition ends where one of its branches does. -/
theorem mem_ends_ifGroup {index : Nat} {yes no : Node}
    (h : e ∈ (Node.ifGroup index yes no).ends s pos groups) :
    e ∈ yes.ends s pos groups ∨ e ∈ no.ends s pos groups := by
  unfold Node.ends at h
  split at h
  · exact .inl h
  · exact .inr h

end

/-! ## Matches -/

/-- A match that is found ends at an end of the root. -/
theorem mem_ends_of_matchAt {p : Pattern} {s : Subject} {advance : Bool} {pos : Nat} {m : Match}
    (h : p.matchAt s advance pos = some m) :
    m.span.start = pos ∧ (m.span.stop, m.groups) ∈ p.root.ends s pos [] := by
  unfold matchAt at h
  obtain ⟨e, he, rfl⟩ := Option.map_eq_some_iff.1 h
  rw [run_eq_findSome?] at he
  obtain ⟨e', hmem, haccept⟩ := List.exists_of_findSome?_eq_some he
  -- what is accepted is the first end, with its groups
  split at haccept
  · exact nomatch haccept
  · obtain rfl := Option.some.inj haccept
    exact ⟨rfl, hmem⟩

/-- A match that may stand at a position has been found there. -/
private theorem exists_matchAt_of_mem_matchesAt {p : Pattern} {s : Subject} {pos : Nat} {m : Match}
    (h : m ∈ p.matchesAt s pos) : ∃ advance, p.matchAt s advance pos = some m := by
  unfold matchesAt at h
  cases hfirst : p.matchAt s false pos with
  | none =>
    rw [hfirst] at h
    exact nomatch h
  | some first =>
    simp only [hfirst] at h
    -- what is tried after an empty match is a match that goes on
    split at h
    · obtain rfl | h := List.mem_cons.1 h
      · exact ⟨false, hfirst⟩
      · exact ⟨true, Option.mem_toList.1 h⟩
    · obtain rfl := List.mem_singleton.1 h
      exact ⟨false, hfirst⟩

/-- What the search has found after some positions, it had found before or found at one of them. -/
private theorem mem_found_foldl_step {p : Pattern} {s : Subject} {m : Match} {positions : List Nat}
    {state : Progress} (h : m ∈ (positions.foldl (Progress.step p s) state).found) :
    m ∈ state.found ∨ ∃ pos ∈ positions, m ∈ p.matchesAt s pos := by
  -- by induction on the positions that are looked at
  induction positions generalizing state with
  | nil => exact .inl h
  | cons pos positions ih =>
    obtain hfound | ⟨pos', hpos', hm⟩ := ih h
    · unfold Progress.step at hfound
      split at hfound
      · -- within the match before: nothing is looked for here
        exact .inl hfound
      · obtain hfound | hm := Array.mem_append.1 hfound
        · exact .inl hfound
        · exact .inr ⟨pos, List.mem_cons_self, List.mem_toArray.1 hm⟩
    · exact .inr ⟨pos', List.mem_cons_of_mem pos hpos', hm⟩

/-- All matches of a pattern in a text are found at positions of it. -/
theorem exists_matchAt_of_mem_findAll {p : Pattern} {s : Subject} {m : Match}
    (h : m ∈ p.findAll s) : ∃ pos ≤ s.size, ∃ advance, p.matchAt s advance pos = some m := by
  obtain hnone | ⟨pos, hpos, hm⟩ := mem_found_foldl_step (Array.mem_toList_iff.1 h)
  · exact nomatch hnone
  · exact ⟨pos, Nat.le_of_lt_succ (List.mem_range.1 hpos), exists_matchAt_of_mem_matchesAt hm⟩

end SecretScan.Pattern
