import SecretScan.Proofs.Pattern.Extent

/-!
# Where groups stand

A group that took part in a match stands within the match, unless the pattern looks around: what a
look-around finds, it finds outside of what is matched.

## Key results

- `encloses_of_mem_ends`: the groups that a node adds stand between its start and its end
- `infix_text_of_mem_findAll`: the text of a group is part of the text of its match
-/

namespace SecretScan.Pattern

/-- Does a node look at what it does not match? -/
def Node.looksAround : Node → Bool
  | .look _ _ _ => true
  | .empty | .one _ | .span _ _ _ _ | .anchor _ | .again _ _ => false
  | .seq a b | .either a b | .ifGroup _ a b => a.looksAround || b.looksAround
  | .group _ body | .repeated body _ _ _ | .atomic body => body.looksAround

/-- Is `e` an end at or after a position, with all groups in between that there were not before? -/
structure Encloses (pos : Nat) (groups : Groups) (e : End) : Prop where
  le : pos ≤ e.1
  added : ∀ g ∈ e.2, g ∈ groups ∨ pos ≤ g.2.start ∧ g.2.stop ≤ e.1

/-- Without a step no group is closed. -/
theorem Encloses.refl (pos : Nat) (groups : Groups) : Encloses pos groups (pos, groups) :=
  ⟨Nat.le_refl pos, fun _ hg => .inl hg⟩

/-- What two steps in a row close lies in the way of both. -/
theorem Encloses.trans {pos : Nat} {groups : Groups} {e e' : End} (h : Encloses pos groups e)
    (h' : Encloses e.1 e.2 e') : Encloses pos groups e' := by
  refine ⟨Nat.le_trans h.le h'.le, fun g hg => ?_⟩
  obtain hg | ⟨hstart, hstop⟩ := h'.added g hg
  · obtain hg | ⟨hstart, hstop⟩ := h.added g hg
    · exact .inl hg
    · exact .inr ⟨hstart, Nat.le_trans hstop h'.le⟩
  · exact .inr ⟨Nat.le_trans h.le hstart, hstop⟩

section

variable {ends : Nat → Groups → List End}
  (h : ∀ pos groups, ∀ e ∈ ends pos groups, Encloses pos groups e)

include h

/-- The groups closed by a fixed number of repetitions lie in their way. -/
private theorem encloses_of_mem_timesEnds (count : Nat) :
    ∀ pos groups, ∀ e ∈ timesEnds ends count pos groups, Encloses pos groups e := by
  -- one round after the other, each from where the last one ended
  induction count with
  | zero =>
    intro pos groups e he
    obtain rfl := List.mem_singleton.1 he
    exact .refl pos groups
  | succ count ih =>
    intro pos groups e he
    obtain ⟨e', he', he⟩ := List.mem_flatMap.1 he
    exact (h pos groups e' he').trans (ih e'.1 e'.2 e he)

/-- The groups closed by an open number of repetitions lie in their way. -/
private theorem encloses_of_mem_moreEnds (order : Order) (rounds : Nat) (last : Option Nat) :
    ∀ pos groups, ∀ e ∈ moreEnds ends order rounds last pos groups, Encloses pos groups e := by
  -- either no more rounds, or one and then the rest
  induction rounds generalizing last with
  | zero =>
    intro pos groups e he
    obtain rfl := List.mem_singleton.1 he
    exact .refl pos groups
  | succ rounds ih =>
    intro pos groups e he
    obtain rfl | ⟨e', he', he⟩ := mem_moreEnds_succ he
    · exact .refl pos groups
    · exact (h pos groups e' he').trans (ih (some pos) e'.1 e'.2 e he)

end

/-- The groups that a node adds stand between its start and its end. -/
theorem encloses_of_mem_ends (s : Subject) (node : Node) (hlook : node.looksAround = false) :
    ∀ pos groups, ∀ e ∈ node.ends s pos groups, Encloses pos groups e := by
  -- by induction on the node; only a look-around could add a group elsewhere
  induction node with
  | empty =>
    intro pos groups e he
    obtain rfl := List.mem_singleton.1 he
    exact .refl pos groups
  | one set =>
    intro pos groups e he
    obtain ⟨_, _, _, rfl⟩ := mem_ends_one he
    exact ⟨Nat.le_succ pos, fun _ hg => .inl hg⟩
  | span set min max order =>
    intro pos groups e he
    obtain ⟨n, _, _, rfl⟩ := mem_spanEnds he
    exact ⟨Nat.le_add_right pos n, fun _ hg => .inl hg⟩
  | seq first second ih₁ ih₂ =>
    intro pos groups e he
    obtain ⟨hfirst, hsecond⟩ := Bool.or_eq_false_iff.1 hlook
    obtain ⟨e', he', he⟩ := List.mem_flatMap.1 he
    exact (ih₁ hfirst pos groups e' he').trans (ih₂ hsecond e'.1 e'.2 e he)
  | either first second ih₁ ih₂ =>
    intro pos groups e he
    obtain ⟨hfirst, hsecond⟩ := Bool.or_eq_false_iff.1 hlook
    obtain he | he := List.mem_append.1 he
    · exact ih₁ hfirst pos groups e he
    · exact ih₂ hsecond pos groups e he
  | group index body ih =>
    intro pos groups e he
    obtain ⟨e', he', rfl⟩ := List.mem_map.1 he
    obtain ⟨hle, hadded⟩ := ih hlook pos groups e' he'
    refine ⟨hle, fun g hg => ?_⟩
    -- the new group is the whole of what the body matches
    obtain rfl | hg := List.mem_cons.1 hg
    · exact .inr ⟨Nat.le_refl pos, Nat.le_refl e'.1⟩
    · exact hadded g hg
  | repeated body min max order ih =>
    intro pos groups e he
    obtain ⟨e', he', he⟩ := List.mem_flatMap.1 he
    have hfirst := encloses_of_mem_timesEnds (ih hlook) min pos groups e' he'
    exact hfirst.trans (encloses_of_mem_moreEnds (ih hlook) order _ none e'.1 e'.2 e he)
  | anchor a =>
    intro pos groups e he
    obtain rfl := mem_ends_anchor he
    exact .refl pos groups
  | look side negated body ih => exact nomatch hlook
  | again index comparison =>
    intro pos groups e he
    obtain ⟨part, _, _, rfl⟩ := mem_ends_again he
    exact ⟨Nat.le_add_right pos _, fun _ hg => .inl hg⟩
  | ifGroup index yes no ih₁ ih₂ =>
    intro pos groups e he
    obtain ⟨hyes, hno⟩ := Bool.or_eq_false_iff.1 hlook
    obtain he | he := mem_ends_ifGroup he
    · exact ih₁ hyes pos groups e he
    · exact ih₂ hno pos groups e he
  | atomic body ih =>
    intro pos groups e he
    exact ih hlook pos groups e (List.mem_of_mem_head? (Option.mem_toList.1 he))

/-! ## Texts of groups -/

/-- The text of a span within another is part of its text. -/
private theorem infix_text_of_le {inner outer : Span} (hstart : outer.start ≤ inner.start)
    (hstop : inner.stop ≤ outer.stop) (s : Subject) : inner.text s <:+: outer.text s := by
  -- the inner part begins so many characters into the outer one
  have hdrop : (outer.text s).drop (inner.start - outer.start) =
      (s.toList.drop inner.start).take (outer.stop - inner.start) := by
    unfold Span.text
    rw [List.drop_take, List.drop_drop]
    congr 1
    · omega
    · congr 1
      omega
  have hprefix : inner.text s <+: (outer.text s).drop (inner.start - outer.start) := by
    rw [hdrop]
    exact List.take_prefix_take_left (by omega)
  exact hprefix.isInfix.trans (List.drop_suffix _ _).isInfix

/-- The text of a group is part of the text of its match. -/
theorem infix_text_of_mem_findAll {p : Pattern} (hlook : p.root.looksAround = false) {s : Subject}
    {m : Match} (h : m ∈ p.findAll s) {index : Nat} {span : Span}
    (hspan : m.group? index = some span) :
    span.text s <:+: m.span.text s := by
  obtain ⟨pos, _, advance, hat⟩ := exists_matchAt_of_mem_findAll h
  obtain ⟨rfl, hend⟩ := mem_ends_of_matchAt hat
  -- there were no groups before the match, so all of them are within it
  have hadded := (encloses_of_mem_ends s p.root hlook _ [] _ hend).added
  unfold Match.group? at hspan
  split at hspan
  · obtain rfl := Option.some.inj hspan
    exact List.infix_refl _
  · obtain ⟨before, after, heq, _⟩ := List.lookup_eq_some_iff.1 hspan
    obtain hg | ⟨hstart, hstop⟩ := hadded (index, span) (by rw [heq]; simp)
    · exact nomatch hg
    · exact infix_text_of_le hstart hstop s

end SecretScan.Pattern
