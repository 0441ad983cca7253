import SecretScan.Proofs.Pattern.Extent
import SecretScan.Proofs.Text.Replacement
import Mathlib.Computability.Language

/-!
# The language of a node

A node without conditions on its surroundings matches texts of a language, which is put together
from characters as the node is. The ends of such a node are exactly where texts of its language
end, so no text of the language is missed by a search.

## Key results

- `text_mem_language_of_mem_ends`: what stands up to an end is a text of the language
- `exists_reads`: the same with all that is known of such a text, in a form that sequences keep
- `exists_mem_ends_of_mem_language`: a text of the language that stands somewhere leads to an end
- `not_contains_of_head?_ends`: the preferred end leaves no character that could still be taken
-/

namespace SecretScan.Pattern

open Text

/-! ## Languages -/

/-- Is the node made of characters, runs of them, sequences and choices only? What such a node
matches does not depend on what stands around it or on groups. -/
def Node.isPlain : Node → Bool
  | .empty | .one _ | .span _ _ _ _ => true
  | .seq first second | .either first second => first.isPlain && second.isPlain
  | .group _ body => body.isPlain
  | _ => false

/-- The texts that a plain node matches, wherever they stand. Other nodes have no language of their
own. -/
def Node.language : Node → Language Char
  | .empty => 1
  | .one set => {w | ∃ c, set.contains c = true ∧ w = [c]}
  | .span set min max _ =>
    {w | min ≤ w.length ∧ (∀ m, max = some m → w.length ≤ m) ∧ ∀ c ∈ w, set.contains c = true}
  | .seq first second => first.language * second.language
  | .either first second => first.language + second.language
  | .group _ body => body.language
  | _ => 0

/-! ## Texts of spans -/

/-- Nothing stands between a position and itself. -/
private theorem text_self (s : Subject) (pos : Nat) : (⟨pos, pos⟩ : Span).text s = [] := by
  unfold Span.text
  rw [Nat.sub_self, List.take_zero]

/-- Two spans of which one starts where the other stops. -/
private theorem text_append_text (s : Subject) {start middle stop : Nat} (hfirst : start ≤ middle)
    (hsecond : middle ≤ stop) :
    (⟨start, middle⟩ : Span).text s ++ (⟨middle, stop⟩ : Span).text s =
      (⟨start, stop⟩ : Span).text s := by
  -- both spans are said by their lengths, which add up
  obtain ⟨n, rfl⟩ := Nat.exists_eq_add_of_le hfirst
  obtain ⟨k, rfl⟩ := Nat.exists_eq_add_of_le hsecond
  unfold Span.text
  rw [Nat.add_sub_cancel_left, Nat.add_sub_cancel_left, Nat.add_assoc, Nat.add_sub_cancel_left,
    List.take_add, List.drop_drop]

/-- Between a position and the next one stands one character. -/
private theorem text_of_getElem? {s : Subject} {pos : Nat} {c : Char} (h : s[pos]? = some c) :
    (⟨pos, pos + 1⟩ : Span).text s = [c] := by
  rw [← Array.getElem?_toList] at h
  obtain ⟨hlt, rfl⟩ := List.getElem?_eq_some_iff.1 h
  unfold Span.text
  rw [Nat.add_sub_cancel_left, List.drop_eq_getElem_cons hlt, List.take_succ_cons, List.take_zero]

/-- The text of a span is what stands there. -/
theorem text_of_standsAt {s : Subject} {pos : Nat} {w : List Char} (h : StandsAt w s.toList pos) :
    (⟨pos, pos + w.length⟩ : Span).text s = w := by
  unfold Span.text
  rw [Nat.add_sub_cancel_left]
  exact (List.prefix_iff_eq_take.1 h).symm

/-! ## Characters in a row -/

section

variable {s : Subject} {set : CharSet} {pos : Nat}

/-- A run counts no more characters than its limit allows. -/
private theorem spanLength_go_le (limit found : Nat) :
    spanLength.go s set pos limit found ≤ found + limit := by
  induction limit generalizing found with
  | zero => exact Nat.le_refl found
  | succ limit ih =>
    unfold spanLength.go
    -- the run goes on while the characters are in the set and there are places left
    split
    · split
      · have := ih (found + 1)
        omega
      · exact Nat.le_add_right found _
    · exact Nat.le_add_right found _

/-- A run is no longer than its upper bound. -/
private theorem spanCount_le {max : Option Nat} {m : Nat} (hm : max = some m) :
    spanCount s set max pos ≤ m := by
  subst hm
  have hle : spanCount s set (some m) pos ≤ 0 + Nat.min m (s.size - pos) := spanLength_go_le _ 0
  rw [Nat.zero_add] at hle
  exact Nat.le_trans hle (Nat.min_le_left _ _)

/-- Counting stops at the limit or before a character that is not in the set. -/
private theorem not_contains_of_spanLength_go_lt (limit found : Nat)
    (h : spanLength.go s set pos limit found < found + limit) {c : Char}
    (hc : s[pos + spanLength.go s set pos limit found]? = some c) : set.contains c = false := by
  -- the induction is on the characters that the run may still take
  induction limit generalizing found with
  | zero => exact absurd h (Nat.lt_irrefl found)
  | succ limit ih =>
    unfold spanLength.go at h hc
    cases hnext : s[pos + found]? with
    | none =>
      simp only [hnext] at hc
      cases hc
    | some c' =>
      simp only [hnext] at h hc
      split at hc
      · next hset =>
        rw [if_pos hset] at h
        exact ih (found + 1) (by omega) hc
      · -- the run has stopped at this very character
        next hset =>
        obtain rfl := Option.some.inj (hnext.symm.trans hc)
        exact Bool.eq_false_iff.2 hset

/-- Without a limit, the character after those that are counted is not in the set. -/
private theorem not_contains_of_spanCount_none {c : Char}
    (hc : s[pos + spanCount s set none pos]? = some c) : set.contains c = false := by
  have hlt := (Array.getElem?_eq_some_iff.1 hc).1
  unfold spanCount spanLength at hc hlt
  exact not_contains_of_spanLength_go_lt _ 0 (by simp only at hlt ⊢; omega) hc

/-- A text of characters of the set that stands somewhere is counted as far as the limit allows. -/
private theorem length_le_spanLength {limit : Nat} {w : List Char}
    (hstands : StandsAt w s.toList pos)
    (hlimit : w.length ≤ limit) (hset : ∀ c ∈ w, set.contains c = true) :
    w.length ≤ spanLength s set limit pos := by
  -- if counting stopped within the text, it would have stopped before a character of the set
  refine Nat.le_of_not_lt fun hlt => ?_
  have hc := hstands.getElem? hlt
  rw [Array.getElem?_toList] at hc
  unfold spanLength at hlt hc
  have hnot := not_contains_of_spanLength_go_lt limit 0 (by omega) hc
  rw [hset _ (List.getElem_mem hlt)] at hnot
  exact nomatch hnot

/-- A run goes at least as far as a word of its characters that stands there. -/
private theorem length_le_spanCount {max : Option Nat} {w : List Char}
    (hstands : StandsAt w s.toList pos)
    (hmax : ∀ m, max = some m → w.length ≤ m) (hset : ∀ c ∈ w, set.contains c = true) :
    w.length ≤ spanCount s set max pos := by
  -- the characters stand in the subject, so that there is room for them
  have hroom := List.IsPrefix.length_le hstands
  rw [List.length_drop, Array.length_toList] at hroom
  cases max with
  | none => exact length_le_spanLength hstands hroom hset
  | some m => exact length_le_spanLength hstands (Nat.le_min.2 ⟨hmax m rfl, hroom⟩) hset

end

/-! ## Words and choices -/

/-- What is made of one set after the other matches one character of each. -/
theorem mem_language_ofList_iff {sets : List CharSet} {w : List Char} :
    w ∈ (Node.ofList (sets.map .one)).language ↔
      List.Forall₂ (fun set c => set.contains c = true) sets w := by
  induction sets generalizing w with
  | nil => exact (Language.mem_one w).trans List.forall₂_nil_left_iff.symm
  | cons set sets ih =>
    rw [List.forall₂_cons_left_iff]
    cases sets with
    | nil =>
      -- a last set has a node of its own
      constructor
      · rintro ⟨c, hc, rfl⟩
        exact ⟨c, [], hc, .nil, rfl⟩
      · rintro ⟨c, _, hc, hnil, rfl⟩
        obtain rfl := List.forall₂_nil_left_iff.1 hnil
        exact ⟨c, hc, rfl⟩
    | cons set' sets =>
      constructor
      · rintro ⟨_, ⟨c, hc, rfl⟩, u, hu, rfl⟩
        exact ⟨c, u, hc, ih.1 hu, rfl⟩
      · rintro ⟨c, u, hc, hu, rfl⟩
        exact ⟨_, ⟨c, hc, rfl⟩, u, ih.2 hu, rfl⟩

/-- A choice between nodes matches what one of them matches. -/
theorem mem_language_firstOf_iff {nodes : List Node} (hne : nodes ≠ []) {w : List Char} :
    w ∈ (Node.firstOf nodes).language ↔ ∃ node ∈ nodes, w ∈ node.language := by
  fun_induction Node.firstOf nodes with
  | case1 => exact absurd rfl hne
  | case2 node => simp
  | case3 node nodes hnodes ih =>
    -- what is left is not empty, or else the node would be the last one
    have hrest := ih fun hnil => hnodes (by rw [hnil])
    rw [List.exists_mem_cons_iff]
    exact or_congr Iff.rfl hrest

/-! ## Ends are in the language -/

/-- What stands between a position and an end of a plain node is a text of its language. -/
theorem text_mem_language_of_mem_ends (s : Subject) {node : Node} (hplain : node.isPlain = true) :
    ∀ pos groups, pos ≤ s.size → groups.Within s → ∀ e ∈ node.ends s pos groups,
      (⟨pos, e.1⟩ : Span).text s ∈ node.language := by
  -- by induction on the node; a sequence is cut where its first part ends
  induction node with
  | empty =>
    intro pos groups _ _ e he
    obtain rfl := List.mem_singleton.1 he
    exact text_self s pos
  | one set =>
    intro pos groups _ _ e he
    obtain ⟨c, hc, hset, rfl⟩ := mem_ends_one he
    exact ⟨c, hset, text_of_getElem? hc⟩
  | span set min max order =>
    intro pos groups hpos hgroups e he
    have hreach := reaches_of_mem_ends s (.span set min max order) pos groups hpos hgroups e he
    obtain ⟨n, hmin, hcount, rfl⟩ := mem_spanEnds he
    have hlength : ((⟨pos, pos + n⟩ : Span).text s).length = n := by
      rw [length_text hreach.le hreach.le_size, Nat.add_sub_cancel_left]
    refine ⟨by rw [hlength]; exact hmin, fun m hm => ?_, fun c hc => ?_⟩
    · rw [hlength]
      exact Nat.le_trans hcount (spanCount_le hm)
    · obtain ⟨i, hstart, hstop, hi⟩ := exists_of_mem_text hc
      obtain ⟨c', hc', set', hset', hcontains⟩ := hreach.chars i hstart hstop
      obtain rfl := Option.some.inj (hi.symm.trans hc')
      rwa [List.mem_singleton.1 hset'] at hcontains
  | seq first second ih₁ ih₂ =>
    intro pos groups hpos hgroups e he
    obtain ⟨hplain₁, hplain₂⟩ := (Bool.and_eq_true _ _).mp hplain
    obtain ⟨e', he', he⟩ := List.mem_flatMap.1 he
    have hfirst := reaches_of_mem_ends s first pos groups hpos hgroups e' he'
    have hsecond := reaches_of_mem_ends s second e'.1 e'.2 hfirst.le_size hfirst.within e he
    rw [← text_append_text s hfirst.le hsecond.le]
    exact Language.append_mem_mul (ih₁ hplain₁ pos groups hpos hgroups e' he')
      (ih₂ hplain₂ e'.1 e'.2 hfirst.le_size hfirst.within e he)
  | either first second ih₁ ih₂ =>
    intro pos groups hpos hgroups e he
    obtain ⟨hplain₁, hplain₂⟩ := (Bool.and_eq_true _ _).mp hplain
    obtain he | he := List.mem_append.1 he
    · exact .inl (ih₁ hplain₁ pos groups hpos hgroups e he)
    · exact .inr (ih₂ hplain₂ pos groups hpos hgroups e he)
  | group index body ih =>
    intro pos groups hpos hgroups e he
    obtain ⟨e', he', rfl⟩ := List.mem_map.1 he
    exact ih hplain pos groups hpos hgroups e' he'
  | repeated | anchor | look | again | ifGroup | atomic => exact nomatch hplain

/-- Does a plain node take `w` on its way from a position to an end? -/
structure Reads (s : Subject) (node : Node) (pos : Nat) (w : List Char) (e : End) : Prop where
  stop_eq : e.1 = pos + w.length
  stands : StandsAt w s.toList pos
  mem_language : w ∈ node.language
  le_size : e.1 ≤ s.size
  within : e.2.Within s

/-- A plain node takes a text of its language to every end. -/
theorem exists_reads {s : Subject} {node : Node} (hplain : node.isPlain = true) {pos : Nat}
    (hpos : pos ≤ s.size) {groups : Groups} (hgroups : groups.Within s) {e : End}
    (he : e ∈ node.ends s pos groups) : ∃ w, Reads s node pos w e := by
  -- an end is reached over the characters between, which are the word
  have hreach := reaches_of_mem_ends s node pos groups hpos hgroups e he
  have hle := hreach.le
  have hlength : ((⟨pos, e.1⟩ : Span).text s).length = e.1 - pos := length_text hle hreach.le_size
  refine ⟨(⟨pos, e.1⟩ : Span).text s, ?_, List.take_prefix _ _,
    text_mem_language_of_mem_ends s hplain pos groups hpos hgroups e he, hreach.le_size,
    hreach.within⟩
  rw [hlength]
  omega

/-- What a node reads is what stands between the two positions. -/
theorem Reads.text_eq {s : Subject} {node : Node} {pos : Nat} {w : List Char} {e : End}
    (h : Reads s node pos w e) : (⟨pos, e.1⟩ : Span).text s = w := by
  rw [h.stop_eq]
  exact text_of_standsAt h.stands

/-- What is read one after the other is read in a sequence. -/
theorem Reads.append {s : Subject} {first second : Node} {pos : Nat} {u v : List Char} {e e' : End}
    (h : Reads s first pos u e) (h' : Reads s second e.1 v e') :
    Reads s (.seq first second) pos (u ++ v) e' := by
  -- the second node reads on where the first one stopped
  have hfirst := h.stop_eq
  have hsecond := h'.stop_eq
  have hstands := h'.stands
  rw [hfirst] at hstands
  refine ⟨?_, standsAt_append_iff.2 ⟨h.stands, hstands⟩,
    Language.append_mem_mul h.mem_language h'.mem_language, h'.le_size, h'.within⟩
  rw [List.length_append]
  omega

/-! ## Texts of the language lead to ends -/

/-- Every count within the bounds is tried. -/
private theorem mem_countsTried_of_le {order : Order} {min count n : Nat} (hmin : min ≤ n)
    (hcount : n ≤ count) : n ∈ countsTried order min count := by
  cases order with
  | greedy => exact List.mem_map.2 ⟨count - n, List.mem_range.2 (by omega), by omega⟩
  | lazy => exact List.mem_map.2 ⟨n - min, List.mem_range.2 (by omega), by omega⟩

/-- Characters of a set in a row lead to an end, and no group is added on the way. -/
theorem mem_ends_span {s : Subject} {set : CharSet} {min : Nat} {max : Option Nat} {order : Order}
    {w : List Char} (hw : w ∈ (Node.span set min max order).language) {pos : Nat}
    (hstands : StandsAt w s.toList pos) (groups : Groups) :
    (pos + w.length, groups) ∈ (Node.span set min max order).ends s pos groups := by
  obtain ⟨hmin, hmax, hset⟩ := hw
  -- the run is as long as the word at least, so that its length is one of the counts
  have hcount := length_le_spanCount hstands hmax hset
  simp only [Node.ends]
  rw [spanEnds, if_neg (by omega)]
  exact List.mem_map_of_mem (mem_countsTried_of_le hmin hcount)

/-- A text of the language of a plain node that stands at a position leads to an end. -/
theorem exists_mem_ends_of_mem_language (s : Subject) {node : Node} (hplain : node.isPlain = true) :
    ∀ w ∈ node.language, ∀ pos groups, StandsAt w s.toList pos →
      ∃ groups', (pos + w.length, groups') ∈ node.ends s pos groups := by
  -- by induction on the node, for all groups: a part may have added some before the next one
  induction node with
  | empty =>
    rintro w rfl pos groups _
    exact ⟨groups, List.mem_singleton_self _⟩
  | one set =>
    rintro w ⟨c, hset, rfl⟩ pos groups hstands
    have hc : s[pos]? = some c := by
      rw [← Array.getElem?_toList]
      exact hstands.getElem? Nat.one_pos
    exact ⟨groups, by simp [Node.ends, hc, hset]⟩
  | span set min max order =>
    intro w hw pos groups hstands
    exact ⟨groups, mem_ends_span hw hstands groups⟩
  | seq first second ih₁ ih₂ =>
    rintro w ⟨u, hu, v, hv, rfl⟩ pos groups hstands
    obtain ⟨hplain₁, hplain₂⟩ := (Bool.and_eq_true _ _).mp hplain
    -- the second part stands where the first one ends
    obtain ⟨hfirst, hsecond⟩ := standsAt_append_iff.1 hstands
    obtain ⟨groups₁, h₁⟩ := ih₁ hplain₁ u hu pos groups hfirst
    obtain ⟨groups₂, h₂⟩ := ih₂ hplain₂ v hv (pos + u.length) groups₁ hsecond
    refine ⟨groups₂, List.mem_flatMap.2 ⟨_, h₁, ?_⟩⟩
    rwa [List.length_append, ← Nat.add_assoc]
  | either first second ih₁ ih₂ =>
    rintro w hw pos groups hstands
    obtain ⟨hplain₁, hplain₂⟩ := (Bool.and_eq_true _ _).mp hplain
    obtain hw | hw := (Language.mem_add _ _ _).1 hw
    · obtain ⟨groups', h⟩ := ih₁ hplain₁ w hw pos groups hstands
      exact ⟨groups', List.mem_append_left _ h⟩
    · obtain ⟨groups', h⟩ := ih₂ hplain₂ w hw pos groups hstands
      exact ⟨groups', List.mem_append_right _ h⟩
  | group index body ih =>
    intro w hw pos groups hstands
    obtain ⟨groups', h⟩ := ih hplain w hw pos groups hstands
    exact ⟨_, List.mem_map.2 ⟨_, h, rfl⟩⟩
  | repeated | anchor | look | again | ifGroup | atomic => cases hplain

/-! ## Preferred ends -/

/-- The preferred end of a sequence is the preferred end of its second part, after an end of the
first. -/
theorem exists_of_head?_ends_seq {s : Subject} {first second : Node} {pos : Nat} {groups : Groups}
    {e : End} (h : ((Node.seq first second).ends s pos groups).head? = some e) :
    ∃ e' ∈ first.ends s pos groups, (second.ends s e'.1 e'.2).head? = some e := by
  simp only [Node.ends] at h
  rw [List.head?_flatMap] at h
  exact List.exists_of_findSome?_eq_some h

/-- The characters of which a node takes as many as there are in the end. -/
def Node.tail? : Node → Option CharSet
  | .span set _ none .greedy => some set
  | .seq _ second => second.tail?
  | _ => none

/-- After the preferred end of a node stands no character of its tail. -/
theorem not_contains_of_head?_ends {s : Subject} {node : Node} {set : CharSet}
    (htail : node.tail? = some set) :
    ∀ pos groups e, (node.ends s pos groups).head? = some e →
      ∀ c, s[e.1]? = some c → set.contains c = false := by
  -- the last node decides: a run by itself, or the one at the end of a sequence
  fun_induction Node.tail? node with
  | case1 set' min =>
    obtain rfl := Option.some.inj htail
    intro pos groups e he c hc
    simp only [Node.ends] at he
    unfold spanEnds at he
    split at he
    · cases he
    · -- the most characters come first
      simp only [countsTried, map_range_succ, List.map_cons, List.head?_cons, Nat.sub_zero] at he
      obtain rfl := Option.some.inj he
      exact not_contains_of_spanCount_none hc
  | case2 first second ih =>
    intro pos groups e he
    obtain ⟨e', _, he⟩ := exists_of_head?_ends_seq he
    exact ih htail e'.1 e'.2 e he
  | case3 => cases htail

end SecretScan.Pattern
