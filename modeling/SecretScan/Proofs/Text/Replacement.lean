import SecretScan.Text.Occurrence
import Mathlib.Data.List.Infix
import Mathlib.Data.Nat.Find

/-!
# What replacement leaves

`Text.replace` goes through a text from left to right. `Replaced` says which occurrences it
replaces without following it: those that are clear of all replaced ones before them. Everything
about the replaced text comes from its form around a first occurrence (`replace_of_first`) by
induction on the occurrences (`first_induction`).

## Key results

- `replaced_iff_of_first`: the replaced occurrences are the first one and those of the rest
- `replace_of_replaced`: what stands left and right of a replaced occurrence is replaced by itself
- `infix_replace_iff`: a text occurs in the outcome if it occurred clear of all that was replaced,
  or is spelled with the help of a filler
- `infix_replace_self_iff`: what was replaced occurs only with the help of a filler
-/

namespace SecretScan.Text

/-- Does `needle` stand at a position of the text? -/
def StandsAt (needle text : List Char) (i : Nat) : Prop :=
  needle <+: text.drop i

instance (needle text : List Char) (i : Nat) : Decidable (StandsAt needle text i) :=
  inferInstanceAs (Decidable (needle <+: text.drop i))

/-- Is there an occurrence at a position, clear of all replaced ones before it? -/
def Replaced (needle text : List Char) (i : Nat) : Prop :=
  StandsAt needle text i ∧ ∀ j, j < i → Replaced needle text j → j + needle.length ≤ i
termination_by i

/-- Do `count` characters from a position on share none with a replaced occurrence? -/
def ClearOfReplaced (needle text : List Char) (i count : Nat) : Prop :=
  ∀ p, Replaced needle text p → i + count ≤ p ∨ p + needle.length ≤ i

/-- Does `t` stand at a place that has a character of `filler` in it, between two other texts? -/
def Crosses (t before filler after : List Char) : Prop :=
  ∃ x y, before ++ filler ++ after = x ++ t ++ y ∧
    x.length < before.length + filler.length ∧ before.length < x.length + t.length

/-! ## Positions -/

/-- A word that occurs in a text stands somewhere in it. -/
theorem infix_iff_standsAt {needle text : List Char} :
    needle <:+: text ↔ ∃ i, StandsAt needle text i := by
  constructor
  · rintro ⟨before, after, rfl⟩
    exact ⟨before.length, after, by simp⟩
  · rintro ⟨i, h⟩
    exact h.isInfix.trans (List.drop_suffix i text).isInfix

/-- Where a word stands, it ends within the text. -/
theorem StandsAt.length_le {needle text : List Char} {i : Nat} (hne : needle ≠ [])
    (h : StandsAt needle text i) : i + needle.length ≤ text.length := by
  have hlen := List.IsPrefix.length_le h
  have hpos := List.length_pos_iff.2 hne
  rw [List.length_drop] at hlen
  omega

/-- Where a text stands, its characters do. -/
theorem StandsAt.getElem? {needle text : List Char} {i : Nat} (h : StandsAt needle text i) {n : Nat}
    (hn : n < needle.length) : text[i + n]? = some needle[n] := by
  rw [← List.getElem?_drop]
  exact List.prefix_iff_getElem?.1 h n hn

/-- Two texts that stand one after the other. -/
theorem standsAt_append_iff {u v text : List Char} {i : Nat} :
    StandsAt (u ++ v) text i ↔ StandsAt u text i ∧ StandsAt v text (i + u.length) := by
  unfold StandsAt
  rw [← List.drop_drop]
  constructor
  · -- both parts are read off the same rest of the text
    rintro ⟨rest, hrest⟩
    rw [List.append_assoc] at hrest
    rw [← hrest, List.drop_left]
    exact ⟨List.prefix_append _ _, List.prefix_append _ _⟩
  · rintro ⟨⟨rest, hrest⟩, hv⟩
    rw [← hrest] at hv ⊢
    rw [List.drop_left] at hv
    exact (List.prefix_append_right_inj u).2 hv

/-- More text after it leaves a word where it stands. -/
theorem standsAt_append_left {needle text : List Char} {i : Nat} (more : List Char)
    (h : StandsAt needle text i) : StandsAt needle (text ++ more) i := by
  unfold StandsAt at h ⊢
  rw [List.drop_append]
  exact h.trans (List.prefix_append _ _)

/-- More text before it moves a word by the length of that text. -/
theorem standsAt_append_right_iff {needle before text : List Char} {i : Nat} :
    StandsAt needle (before ++ text) (before.length + i) ↔ StandsAt needle text i := by
  unfold StandsAt
  rw [List.drop_append, List.drop_eq_nil_of_le (by omega), List.nil_append, Nat.add_sub_cancel_left]

/-- An occurrence that ends within the first part stands there. -/
theorem infix_of_standsAt_append {needle text more : List Char} {i : Nat}
    (h : StandsAt needle (text ++ more) i) (hle : i + needle.length ≤ text.length) :
    needle <:+: text := by
  refine infix_iff_standsAt.2 ⟨i, ?_⟩
  unfold StandsAt at h ⊢
  rw [List.drop_append_of_le_length (by omega)] at h
  exact List.prefix_of_prefix_length_le h (List.prefix_append _ _)
    (by rw [List.length_drop]; omega)

/-- Two pieces of a text that have no character in common do not overlap. -/
theorem clear_of_disjoint {x t y before f after : List Char}
    (h : x ++ t ++ y = before ++ f ++ after) (hdisjoint : ∀ c ∈ f, c ∉ t) (ht : t ≠ [])
    (hf : f ≠ []) :
    x.length + t.length ≤ before.length ∨ before.length + f.length ≤ x.length := by
  have htpos := List.length_pos_iff.2 ht
  have hfpos := List.length_pos_iff.2 hf
  by_contra hoverlap
  -- the first position that both have
  have hchar := congrArg (·[max before.length x.length]?) h
  simp only [List.append_assoc] at hchar
  rw [List.getElem?_append_right (by omega), List.getElem?_append_left (by omega),
    List.getElem?_append_right (by omega), List.getElem?_append_left (by omega),
    List.getElem?_eq_getElem (by omega)] at hchar
  exact hdisjoint _ (List.mem_of_getElem? hchar.symm) (List.getElem_mem _)

/-- An occurrence does not overlap a piece with which it has no character in common. -/
theorem StandsAt.clear_of_disjoint {needle before f after : List Char} {i : Nat}
    (h : StandsAt needle (before ++ f ++ after) i) (hdisjoint : ∀ c ∈ f, c ∉ needle)
    (hne : needle ≠ []) (hf : f ≠ []) :
    i + needle.length ≤ before.length ∨ before.length + f.length ≤ i := by
  have hle := h.length_le hne
  -- the text up to the place, the needle and the rest make up the whole
  have hlength : ((before ++ f ++ after).take i).length = i :=
    List.length_take_of_le (by omega)
  obtain ⟨rest, hrest⟩ := h
  have hsplit : (before ++ f ++ after).take i ++ needle ++ rest = before ++ f ++ after := by
    rw [List.append_assoc, hrest, List.take_append_drop]
  have hclear := Text.clear_of_disjoint hsplit hdisjoint hne hf
  rwa [hlength] at hclear

/-- The search finds the first place at which a word stands. -/
private theorem exists_findFrom_eq_some {needle text : List Char} (h : needle <:+: text)
    (pos : Nat) :
    ∃ i, findFrom needle pos text = some (pos + i) ∧ StandsAt needle text i ∧
      ∀ j < i, ¬ StandsAt needle text j := by
  induction text generalizing pos with
  | nil =>
    obtain rfl := List.infix_nil.1 h
    exact ⟨0, rfl, List.prefix_rfl, fun _ hlt => absurd hlt (Nat.not_lt_zero _)⟩
  | cons c cs ih =>
    unfold findFrom
    by_cases hstart : needle.isPrefixOf (c :: cs) = true
    · exact ⟨0, if_pos hstart, List.isPrefixOf_iff_prefix.1 hstart,
        fun _ hlt => absurd hlt (Nat.not_lt_zero _)⟩
    · -- it does not stand at the start, so it stands in the rest
      have hnot : ¬ needle <+: c :: cs :=
        fun hprefix => hstart (List.isPrefixOf_iff_prefix.2 hprefix)
      have hrest : needle <:+: cs := (List.infix_cons_iff.1 h).resolve_left hnot
      obtain ⟨i, hfind, hstands, hfirst⟩ := ih hrest (pos + 1)
      refine ⟨i + 1, ?_, hstands, fun j hj => ?_⟩
      · rw [if_neg hstart, hfind, Nat.add_assoc, Nat.add_comm 1 i]
      · cases j with
        | zero => exact hnot
        | succ j => exact hfirst j (Nat.lt_of_succ_lt_succ hj)

/-- A text that occurs is found where it stands first. -/
theorem exists_find?_eq_some {needle text : List Char} (h : needle <:+: text) :
    ∃ i, find? needle text = some i ∧ StandsAt needle text i ∧
      ∀ j < i, ¬ StandsAt needle text j := by
  obtain ⟨i, hfind, hstands, hfirst⟩ := exists_findFrom_eq_some h 0
  exact ⟨i, by rw [find?, hfind, Nat.zero_add], hstands, hfirst⟩

/-! ## The first occurrence -/

/-- A text with an occurrence splits at its first one. -/
theorem exists_first {needle text : List Char} (h : needle <:+: text) :
    ∃ before after, text = before ++ needle ++ after ∧
      ∀ i < before.length, ¬ StandsAt needle text i := by
  classical
  -- the least place at which it stands is the first one
  have hex := infix_iff_standsAt.1 h
  obtain ⟨after, hafter⟩ := Nat.find_spec hex
  refine ⟨text.take (Nat.find hex), after, ?_, ?_⟩
  · rw [List.append_assoc, hafter, List.take_append_drop]
  · intro i hi
    exact Nat.find_min hex (Nat.lt_of_lt_of_le hi (List.length_take_le _ _))

/-- What holds of texts without an occurrence, and of those with one if it holds of what stands
after the first, holds of all texts. -/
theorem first_induction {needle : List Char} (hne : needle ≠ []) {P : List Char → Prop}
    (clear : ∀ text, ¬ needle <:+: text → P text)
    (found : ∀ before after,
      (∀ i < before.length, ¬ StandsAt needle (before ++ needle ++ after) i) →
      P after → P (before ++ needle ++ after)) (text : List Char) : P text := by
  -- what stands after the first occurrence is shorter, as the needle is not empty
  by_cases h : needle <:+: text
  · obtain ⟨before, after, rfl, hfirst⟩ := exists_first h
    exact found before after hfirst (first_induction hne clear found after)
  · exact clear text h
termination_by text.length
decreasing_by
  have := List.length_pos_iff.2 hne
  subst_vars
  simp only [List.length_append]
  omega

section

variable {needle before after : List Char}
  (hfirst : ∀ i < before.length, ¬ StandsAt needle (before ++ needle ++ after) i)

include hfirst

/-- The replaced occurrences are the first one and those of what stands after it. -/
theorem replaced_iff_of_first (i : Nat) :
    Replaced needle (before ++ needle ++ after) i ↔
      i = before.length ∨
        ∃ j, i = (before ++ needle).length + j ∧ Replaced needle after j := by
  -- whether an occurrence is replaced depends on those before it: strong induction
  induction i using Nat.strongRecOn with
  | ind i ih =>
    constructor
    · intro h
      have hclear := h
      unfold Replaced at hclear
      obtain ⟨hstands, hclear⟩ := hclear
      -- nothing stands before the first occurrence; after it, the replaced ones are clear of it
      obtain hlt | rfl | hgt := Nat.lt_trichotomy i before.length
      · exact absurd hstands (hfirst i hlt)
      · exact .inl rfl
      · right
        have hle := hclear before.length hgt ((ih _ hgt).2 (.inl rfl))
        obtain ⟨j, rfl⟩ := Nat.exists_eq_add_of_le hle
        rw [← List.length_append] at hstands hclear ih ⊢
        refine ⟨j, rfl, ?_⟩
        unfold Replaced
        refine ⟨standsAt_append_right_iff.1 hstands, fun k hk hrep => ?_⟩
        have := hclear ((before ++ needle).length + k) (by omega)
          ((ih _ (by omega)).2 (.inr ⟨k, rfl, hrep⟩))
        omega
    · rintro (rfl | ⟨j, rfl, h⟩)
      · -- the first occurrence has none before it
        unfold Replaced
        refine ⟨⟨after, by simp⟩, fun j hj hrep => ?_⟩
        unfold Replaced at hrep
        exact absurd hrep.1 (hfirst j hj)
      · unfold Replaced at h ⊢
        refine ⟨standsAt_append_right_iff.2 h.1, fun k hk hrep => ?_⟩
        obtain rfl | ⟨k, rfl, hafter⟩ := (ih k hk).1 hrep
        · rw [List.length_append]
          omega
        · have := h.2 k (by omega) hafter
          omega

/-- What stands before the first occurrence has none, and it is the first of every text that goes on
in another way. -/
private theorem not_standsAt_of_first {more : List Char} (hmore : more <+: after) :
    ∀ i < before.length, ¬ StandsAt needle (before ++ needle ++ more) i := by
  intro i hi h
  obtain ⟨rest, rfl⟩ := hmore
  exact hfirst i hi (by simpa only [List.append_assoc] using standsAt_append_left rest h)

/-- Before its first place a word does not occur. -/
private theorem not_infix_of_first (hne : needle ≠ []) : ¬ needle <:+: before := by
  intro h
  obtain ⟨i, hi⟩ := infix_iff_standsAt.1 h
  have hlen := hi.length_le hne
  have hpos := List.length_pos_iff.2 hne
  exact hfirst i (by omega)
    (by simpa only [List.append_assoc] using standsAt_append_left (needle ++ after) hi)

/-- The first occurrence is replaced, and so is what stands after it. -/
theorem replace_of_first (hne : needle ≠ []) (filler : List Char) :
    replace needle filler (before ++ needle ++ after) =
      before ++ filler ++ replace needle filler after := by
  induction before with
  | nil =>
    cases needle with
    | nil => exact absurd rfl hne
    | cons d ds =>
      have hstart : (d :: ds).isPrefixOf (d :: (ds ++ after)) = true :=
        List.isPrefixOf_iff_prefix.2 ⟨after, rfl⟩
      simp [replace, hstart]
  | cons c before ih =>
    -- the needle does not stand at the start, so that character is kept
    have hstart : needle.isPrefixOf (c :: (before ++ needle ++ after)) = false := by
      rw [Bool.eq_false_iff, ne_eq, List.isPrefixOf_iff_prefix]
      exact hfirst 0 (Nat.zero_lt_succ _)
    have hrest := ih fun i hi => hfirst (i + 1) (Nat.succ_lt_succ hi)
    simp only [List.cons_append, replace, hstart, Bool.false_eq_true, if_false, hrest]

end

/-- A text without the word stays as it is. -/
theorem replace_of_absent {needle text : List Char} (filler : List Char)
    (h : ¬ needle <:+: text) : replace needle filler text = text := by
  induction text with
  | nil => simp [replace]
  | cons c cs ih =>
    -- it stands nowhere, so that it does not stand at the start
    have hstart : needle.isPrefixOf (c :: cs) = false := by
      rw [Bool.eq_false_iff, ne_eq, List.isPrefixOf_iff_prefix]
      exact fun hp => h hp.isInfix
    have hrest := ih fun hc => h (hc.trans (List.suffix_cons c cs).isInfix)
    simp only [replace, hstart, Bool.false_eq_true, if_false, hrest]

/-! ## The replaced occurrences -/

/-- What is replaced stood there. -/
theorem standsAt_of_replaced {needle text : List Char} {p : Nat} (h : Replaced needle text p) :
    StandsAt needle text p := by
  unfold Replaced at h
  exact h.1

/-- In a text without the word nothing is replaced. -/
theorem not_replaced_of_absent {needle text : List Char} (h : ¬ needle <:+: text) (p : Nat) :
    ¬ Replaced needle text p :=
  fun hp => h (infix_iff_standsAt.2 ⟨p, standsAt_of_replaced hp⟩)

/-- Every occurrence shares a character with a replaced one. -/
private theorem not_clearOfReplaced {needle text : List Char} (hne : needle ≠ []) {i : Nat}
    (h : StandsAt needle text i) : ¬ ClearOfReplaced needle text i needle.length := by
  intro hclear
  have hpos := List.length_pos_iff.2 hne
  -- clear of all others, it would be replaced itself
  have hrep : Replaced needle text i := by
    unfold Replaced
    exact ⟨h, fun j hj hrep => by have := hclear j hrep; omega⟩
  have := hclear i hrep
  omega

/-- Where there is an occurrence, one is replaced. -/
theorem exists_replaced {needle text : List Char} (hne : needle ≠ []) (h : needle <:+: text) :
    ∃ p, Replaced needle text p := by
  obtain ⟨i, hi⟩ := infix_iff_standsAt.1 h
  -- if none were replaced, this one would be clear of all
  by_contra hno
  exact not_clearOfReplaced hne hi fun p hp => absurd ⟨p, hp⟩ hno

/-- What stands left and right of a replaced occurrence is replaced by itself. -/
theorem replace_of_replaced {needle : List Char} (hne : needle ≠ []) (filler : List Char)
    {text : List Char} {p : Nat} (h : Replaced needle text p) :
    replace needle filler text = replace needle filler (text.take p) ++ filler ++
      replace needle filler (text.drop (p + needle.length)) := by
  induction text using first_induction hne generalizing p with
  | clear text hno => exact absurd h (not_replaced_of_absent hno p)
  | found before after hfirst ih =>
    rw [replace_of_first hfirst hne]
    obtain rfl | ⟨j, rfl, hj⟩ := (replaced_iff_of_first hfirst p).1 h
    · -- the first occurrence: nothing is replaced before it
      have hbefore := replace_of_absent filler (not_infix_of_first hfirst hne)
      rw [← List.length_append, List.drop_left, List.append_assoc before needle, List.take_left,
        hbefore]
    · -- a later one: the first is also the first of what stands before the later one
      have hmore := not_standsAt_of_first hfirst (List.take_prefix j after)
      rw [ih hj, List.take_length_add_append, Nat.add_assoc, List.drop_length_add_append,
        replace_of_first hmore hne]
      simp only [List.append_assoc]

/-! ## Occurrences in the outcome -/

/-- More text before it does not change what reaches into a filler. -/
private theorem Crosses.append_left {t before filler after : List Char} (more : List Char)
    (h : Crosses t before filler after) : Crosses t (more ++ before) filler after := by
  obtain ⟨x, y, heq, hx, ht⟩ := h
  refine ⟨more ++ x, y, ?_, ?_, ?_⟩
  · simp only [List.append_assoc] at heq ⊢
    rw [heq]
  · simp only [List.length_append]; omega
  · simp only [List.length_append]; omega

/-- A word in three texts in a row lies in the first, in the last, or reaches into the middle one.
-/
theorem infix_append_append_iff {t before filler after : List Char} :
    t <:+: before ++ filler ++ after ↔
      t <:+: before ∨ t <:+: after ∨ Crosses t before filler after := by
  constructor
  · rintro ⟨x, y, h⟩
    have hstands : StandsAt t (before ++ filler ++ after) x.length := ⟨y, by simp [← h]⟩
    -- it ends within the first text, starts within the last, or does neither
    by_cases hleft : x.length + t.length ≤ before.length
    · rw [List.append_assoc] at hstands
      exact .inl (infix_of_standsAt_append hstands hleft)
    · by_cases hright : (before ++ filler).length ≤ x.length
      · obtain ⟨i, hi⟩ := Nat.exists_eq_add_of_le hright
        rw [hi] at hstands
        exact .inr (.inl (infix_iff_standsAt.2 ⟨i, standsAt_append_right_iff.1 hstands⟩))
      · rw [List.length_append] at hright
        exact .inr (.inr ⟨x, y, h.symm, by omega, by omega⟩)
  · rintro (h | h | ⟨x, y, heq, _⟩)
    · rw [List.append_assoc]
      exact h.trans (List.prefix_append _ _).isInfix
    · exact h.trans (List.suffix_append _ _).isInfix
    · exact ⟨x, y, heq.symm⟩

section

variable {needle t : List Char} (hne : needle ≠ []) (filler : List Char)

include hne

/-- What stands clear of all that is replaced is still there. -/
theorem infix_replace_of_clear {text : List Char} {i : Nat} (h : StandsAt t text i)
    (hclear : ClearOfReplaced needle text i t.length) : t <:+: replace needle filler text := by
  induction text using first_induction hne generalizing i with
  | clear text hno =>
    rw [replace_of_absent filler hno]
    exact infix_iff_standsAt.2 ⟨i, h⟩
  | found before after hfirst ih =>
    rw [replace_of_first hfirst hne, infix_append_append_iff]
    have hreplaced := replaced_iff_of_first hfirst
    -- clear of the first replaced occurrence, it stands before or after it
    obtain hle | hle := hclear before.length ((hreplaced _).2 (.inl rfl))
    · rw [List.append_assoc] at h
      exact .inl (infix_of_standsAt_append h hle)
    · rw [← List.length_append] at hle
      obtain ⟨j, rfl⟩ := Nat.exists_eq_add_of_le hle
      refine .inr (.inl (ih (standsAt_append_right_iff.1 h) fun p hp => ?_))
      have := hclear _ ((hreplaced _).2 (.inr ⟨p, rfl, hp⟩))
      omega

/-- What occurs in the outcome stood clear of all that was replaced, or needs a filler. -/
private theorem clear_or_crosses_of_infix_replace {text : List Char}
    (h : t <:+: replace needle filler text) :
    (∃ i, StandsAt t text i ∧ ClearOfReplaced needle text i t.length) ∨
      ∃ p, Replaced needle text p ∧ Crosses t (replace needle filler (text.take p)) filler
        (replace needle filler (text.drop (p + needle.length))) := by
  induction text using first_induction hne with
  | clear text hno =>
    rw [replace_of_absent filler hno] at h
    obtain ⟨i, hi⟩ := infix_iff_standsAt.1 h
    exact .inl ⟨i, hi, fun p hp => absurd hp (not_replaced_of_absent hno p)⟩
  | found before after hfirst ih =>
    have hreplaced := replaced_iff_of_first hfirst
    rw [replace_of_first hfirst hne, infix_append_append_iff] at h
    obtain h | h | h := h
    · -- before the first occurrence: as it was
      obtain ⟨x, y, rfl⟩ := h
      refine .inl ⟨x.length, ⟨y ++ needle ++ after, by simp⟩, fun p hp => .inl ?_⟩
      obtain rfl | ⟨j, rfl, _⟩ := (hreplaced p).1 hp
      · simp only [List.length_append]
        omega
      · simp only [List.length_append]
        omega
    · -- after it: by induction, at a place or at a replaced occurrence further on
      obtain ⟨i, hi, hclear⟩ | ⟨j, hj, hcross⟩ := ih h
      · refine .inl ⟨(before ++ needle).length + i, standsAt_append_right_iff.2 hi, fun p hp => ?_⟩
        obtain rfl | ⟨j, rfl, hj⟩ := (hreplaced p).1 hp
        · rw [List.length_append]
          omega
        · have := hclear j hj
          omega
      · have hmore := not_standsAt_of_first hfirst (List.take_prefix j after)
        refine .inr ⟨_, (hreplaced _).2 (.inr ⟨j, rfl, hj⟩), ?_⟩
        rw [List.take_length_add_append, Nat.add_assoc, List.drop_length_add_append,
          replace_of_first hmore hne]
        exact hcross.append_left _
    · -- with the help of its filler
      refine .inr ⟨before.length, (hreplaced _).2 (.inl rfl), ?_⟩
      rw [← List.length_append, List.drop_left, List.append_assoc before needle, List.take_left,
        replace_of_absent filler (not_infix_of_first hfirst hne)]
      exact h

/-- A text occurs in the outcome exactly if it occurred clear of all that was replaced, or is
spelled with the help of a filler. -/
theorem infix_replace_iff {text : List Char} :
    t <:+: replace needle filler text ↔
      (∃ i, StandsAt t text i ∧ ClearOfReplaced needle text i t.length) ∨
        ∃ p, Replaced needle text p ∧ Crosses t (replace needle filler (text.take p)) filler
          (replace needle filler (text.drop (p + needle.length))) := by
  constructor
  · exact clear_or_crosses_of_infix_replace hne filler
  · -- clear of all replaced copies, or across the filler of one of them
    rintro (⟨i, hi, hclear⟩ | ⟨p, hp, hcross⟩)
    · exact infix_replace_of_clear hne filler hi hclear
    · rw [replace_of_replaced hne filler hp, infix_append_append_iff]
      exact .inr (.inr hcross)

/-- What was replaced occurs in the outcome exactly if it is spelled with the help of a filler. -/
theorem infix_replace_self_iff {text : List Char} :
    needle <:+: replace needle filler text ↔
      ∃ p, Replaced needle text p ∧ Crosses needle (replace needle filler (text.take p)) filler
        (replace needle filler (text.drop (p + needle.length))) := by
  rw [infix_replace_iff hne filler]
  constructor
  · -- a copy in the text is replaced or overlaps one that is
    rintro (⟨i, hi, hclear⟩ | h)
    · exact absurd hclear (not_clearOfReplaced hne hi)
    · exact h
  · exact .inr

end

end SecretScan.Text
