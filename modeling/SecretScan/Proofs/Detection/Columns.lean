import SecretScan.Proofs.Detection.Assignments

/-!
# Columns of assigned values

The column of an assigned value is found by looking for the text of the value in the match. The name
and the sign are part of the match, so a copy of the value may stand there, or start there and go on
in the value itself; then the column is that of the copy. `Assignment.SpelledBefore` says of which
assignments this is so.

## Key results

- `spelledBefore_iff`: when a copy of a value starts before the value
- `column_of_assignment`: the column of a finding is that of the first copy of its value in the
  match
-/

namespace SecretScan

open Text Pattern

namespace Assignment

variable (a : Assignment)

/-! ## Copies of values -/

/-- The sign, with the name if no white space keeps them apart. -/
def lead : List Char :=
  if a.before = [] then a.name ++ [a.sign] else [a.sign]

/-- What stands before that. -/
def skipped : List Char :=
  if a.before = [] then [] else a.name ++ a.before

/-- What keeps the sign and the value apart. -/
def gap : List Char :=
  a.after ++ a.quote.toList

/-- Is the value part of the name, or of the name and the sign, or does it start there and go on as
the value does? -/
def SpelledBefore : Prop :=
  a.value <:+: a.name ∨ a.value <:+: a.lead ∨
    (a.gap = [] ∧ ∃ t, t ≠ [] ∧ t <:+ a.lead ∧ a.value <+: t ++ a.value)

/-- Before the value stand what is skipped, the lead and the gap. -/
private theorem head_eq : a.head = a.skipped ++ (a.lead ++ a.gap) := by
  unfold head skipped lead gap
  split
  · next hbefore => simp [hbefore]
  · simp

private theorem length_head : a.head.length = a.skipped.length +
    (a.lead.length + a.gap.length) := by
  rw [head_eq, List.length_append, List.length_append]

/-- The parts of an assignment, from left to right. -/
theorem text_eq : a.text = a.skipped ++ (a.lead ++ a.gap ++ (a.value ++ a.quote.toList)) := by
  rw [text, head_eq, List.append_assoc]

/-- Quotes and white space are not part of a value. -/
private theorem not_mem_value {c : Char} (h : isQuote c = true ∨ isBlank c = true) :
    c ∉ a.value := by
  intro hc
  have hbare := a.isBare_value c hc
  rw [isBare, Bool.or_eq_true_iff.2 h] at hbare
  cases hbare

/-- No character of the gap can stand in a value. -/
private theorem not_mem_value_of_mem_gap {c : Char} (h : c ∈ a.gap) : c ∉ a.value := by
  apply a.not_mem_value
  obtain h | h := List.mem_append.1 h
  · exact .inr (a.isBlank_after c h)
  · exact .inl (a.isQuote_quote c (Option.mem_toList.1 h))

variable {a}

/-- A copy that starts in the name and the sign, or in the sign, stays there or goes on in the
value. -/
private theorem spelledBefore_of_standsAt_lead {k : Nat} (hlt : k < a.lead.length + a.gap.length)
    (h : StandsAt a.value (a.lead ++ a.gap ++ (a.value ++ a.quote.toList)) k) :
    a.SpelledBefore := by
  by_cases hgap : a.gap = []
  · -- nothing separates the value, and no quote closes it
    have hquote : a.quote.toList = [] := (List.append_eq_nil_iff.1 hgap).2
    rw [hgap, hquote, List.append_nil, List.append_nil] at h
    rw [hgap, List.length_nil, Nat.add_zero] at hlt
    unfold StandsAt at h
    rw [List.drop_append_of_le_length (by omega)] at h
    refine .inr (.inr ⟨hgap, a.lead.drop k, ?_, List.drop_suffix _ _, h⟩)
    exact List.ne_nil_of_length_pos (by rw [List.length_drop]; omega)
  · -- with a gap in between, the copy lies before it or behind it
    obtain hbefore | hafter :=
      h.clear_of_disjoint (fun c hc => a.not_mem_value_of_mem_gap hc) a.value_ne_nil hgap
    · rw [List.append_assoc] at h
      exact .inr (.inl (infix_of_standsAt_append h hbefore))
    · omega

/-- A copy that is not part of the name starts no further left than the sign and what joins it. -/
private theorem infix_name_or_skipped_le {j : Nat} (h : StandsAt a.value a.text j) :
    a.value <:+: a.name ∨ a.skipped.length ≤ j := by
  unfold skipped
  split
  · exact .inr (Nat.zero_le j)
  · -- what separates the name from the sign cannot stand in a value, so no copy reaches over it
    next hbefore =>
    have hsplit : a.text =
        a.name ++ a.before ++ (a.sign :: (a.gap ++ (a.value ++ a.quote.toList))) := by
      simp [text, head, gap]
    rw [hsplit] at h
    obtain hin | hafter := h.clear_of_disjoint
      (fun c hc => a.not_mem_value (.inr (a.isBlank_before c hc))) a.value_ne_nil hbefore
    · rw [List.append_assoc] at h
      exact .inl (infix_of_standsAt_append h hin)
    · rw [List.length_append]
      exact .inr hafter

/-- A copy that begins before the value is one that the lead spells. -/
private theorem spelledBefore_of_standsAt {j : Nat} (hj : j < a.head.length)
    (h : StandsAt a.value a.text j) : a.SpelledBefore := by
  have hlength := a.length_head
  obtain hname | hskipped := infix_name_or_skipped_le h
  · exact .inl hname
  · obtain ⟨k, rfl⟩ := Nat.exists_eq_add_of_le hskipped
    rw [text_eq, standsAt_append_right_iff] at h
    exact spelledBefore_of_standsAt_lead (by omega) h

/-- What the lead spells stands in the text before the value. -/
private theorem exists_standsAt_of_spelledBefore (h : a.SpelledBefore) :
    ∃ j < a.head.length, StandsAt a.value a.text j := by
  have hfour := a.four_le_length
  have hlength := a.length_head
  obtain hname | hlead | ⟨hgap, t, ht, ⟨u, hu⟩, hvalue⟩ := h
  · -- in the name
    obtain ⟨i, hi⟩ := infix_iff_standsAt.1 hname
    have hle := hi.length_le a.value_ne_nil
    have hshort : a.name.length ≤ a.head.length := by
      rw [head, List.length_append]
      omega
    refine ⟨i, by omega, ?_⟩
    rw [text, head, List.append_assoc]
    exact standsAt_append_left _ hi
  · -- in the name and the sign
    obtain ⟨i, hi⟩ := infix_iff_standsAt.1 hlead
    have hle := hi.length_le a.value_ne_nil
    refine ⟨a.skipped.length + i, by omega, ?_⟩
    rw [text_eq, standsAt_append_right_iff, List.append_assoc]
    exact standsAt_append_left _ hi
  · -- from there into the value
    have hpos := List.length_pos_iff.2 ht
    have hlead := congrArg List.length hu
    rw [List.length_append] at hlead
    refine ⟨a.skipped.length + u.length, by omega, ?_⟩
    rw [text_eq, standsAt_append_right_iff, hgap, List.append_nil, ← List.append_assoc]
    apply standsAt_append_left
    show a.value <+: (a.lead ++ a.value).drop u.length
    rwa [← hu, List.append_assoc, List.drop_left]

/-- When a copy of a value starts before the value. -/
theorem spelledBefore_iff :
    (∃ j < a.head.length, StandsAt a.value a.text j) ↔ a.SpelledBefore := by
  constructor
  · rintro ⟨j, hj, h⟩
    exact spelledBefore_of_standsAt hj h
  · exact exists_standsAt_of_spelledBefore

end Assignment

/-! ## Columns -/

/-- What the rule finds in a text is the value at a place, and the third group of its match. -/
private theorem exists_place_of_mem_occurrences {text : List Char} {rules : List Rule}
    {o : Occurrence}
    (h : o ∈ occurrences text rules) (hrule : o.rule = Catalog.genericSecret) :
    ∃ (p : Place o.line) (m : Match),
      m ∈ Catalog.genericSecret.pattern.findAll o.line.toArray ∧ p.MatchedBy m ∧
      o = p.occurrence o.lineNumber := by
  -- the occurrence is one of this rule, on a line of the text
  unfold occurrences at h
  obtain ⟨⟨line, number⟩, _, h⟩ := List.mem_flatMap.1 h
  obtain ⟨r, _, h⟩ := List.mem_flatMap.1 h
  obtain rfl : r = Catalog.genericSecret := (Rule.eq_of_mem_occurrences h).symm.trans hrule
  obtain ⟨m, hm, _, rfl⟩ := Rule.mem_occurrences_iff.1 h
  obtain ⟨p, hp⟩ := exists_place_of_mem_findAll hm
  -- where the value is found is where the match says
  refine ⟨p, m, hm, hp, ?_⟩
  rw [hp.secretOf_eq, hp.span_eq]
  rfl

/-- The column of an assigned value that is reported. It is that of the first copy of the value in
the match, and never behind the value. It is that of the value itself, the third group, exactly if
the value is not spelled before. -/
theorem column_of_assignment {text : List Char} {options : DetectionOptions} {o : Occurrence}
    {f : Finding} (h : Reported text options o f) (hrule : o.rule = Catalog.genericSecret) :
    ∃ (p : Place o.line) (m : Match) (j : Nat),
      m ∈ Catalog.genericSecret.pattern.findAll o.line.toArray ∧ p.MatchedBy m ∧
      o.secret = p.assignment.value ∧ f.column = p.start + j + 1 ∧
      StandsAt p.assignment.value p.assignment.text j ∧
      (∀ k < j, ¬ StandsAt p.assignment.value p.assignment.text k) ∧
      f.column ≤ p.valueStart + 1 ∧
      (f.column = p.valueStart + 1 ↔ ¬ p.assignment.SpelledBefore) := by
  obtain ⟨hmem, _, hfinding⟩ := h
  obtain ⟨p, m, hm, hp, ho⟩ := exists_place_of_mem_occurrences hmem hrule
  -- the value itself stands behind the head
  have hvalue : StandsAt p.assignment.value p.assignment.text p.assignment.head.length :=
    ⟨p.assignment.quote.toList, by rw [Assignment.text, List.drop_left]⟩
  obtain ⟨j, hfind, hstands, hfirst⟩ := exists_find?_eq_some (infix_iff_standsAt.2 ⟨_, hvalue⟩)
  have hsecret : o.secret = p.assignment.value := congrArg Occurrence.secret ho
  have hoffset : o.offset = p.start + j := by
    have hplace : (p.occurrence o.lineNumber).offset = p.start + j := by
      simp only [Place.occurrence, hfind, Option.getD_some]
    exact (congrArg Occurrence.offset ho).trans hplace
  have hcolumn : f.column = p.start + j + 1 := by
    rw [hfinding]
    show (o.offset : Int) + 1 = _
    omega
  have hle : j ≤ p.assignment.head.length := by
    by_contra hlt
    exact hfirst _ (Nat.lt_of_not_le hlt) hvalue
  have hstart : p.valueStart = p.start + p.assignment.head.length := rfl
  refine ⟨p, m, j, hm, hp, hsecret, hcolumn, hstands, hfirst, by omega, ?_⟩
  rw [← Assignment.spelledBefore_iff]
  constructor
  · rintro hat ⟨k, hk, hcopy⟩
    exact hfirst k (by omega) hcopy
  · intro hnone
    by_contra hother
    exact hnone ⟨j, by omega, hstands⟩

/-- A line with a value that is the start of the name it is assigned to. -/
def namedValue : List Char :=
  "password=pass".toList

/-- A password that is the beginning of its own name. -/
theorem column_of_assignment_namedValue :
    ∃ o f, Reported namedValue { path := "a.py", entropyThreshold := 0 } o f ∧
      o.rule = Catalog.genericSecret ∧ f.column = 1 ∧
      ∃ p : Place o.line, p.assignment.value = "pass".toList ∧ p.valueStart = 9 ∧
        p.assignment.SpelledBefore := by
  have hline : (namedValue, 1) ∈ (lines namedValue).zipIdx 1 := by decide
  have hrule : Catalog.genericSecret ∈ Catalog.rules := by simp [Catalog.rules]
  have hfound : ("pass".toList, 0) ∈
      (Catalog.genericSecret.occurrences 1 namedValue).map fun o => (o.secret, o.offset) := by
    decide +kernel
  have hgroup : ∀ m ∈ Catalog.genericSecret.pattern.findAll namedValue.toArray,
      m.group? 3 = some ⟨9, 13⟩ := by
    decide +kernel
  have hentropy : ¬ entropy "pass".toList < 0 := by decide +kernel
  obtain ⟨o, ho, horule, holine, _, hosecret, hooffset⟩ :=
    exists_mem_occurrences hline hrule hfound
  have hreported : Reported namedValue { path := "a.py", entropyThreshold := 0 } o
      (o.toFinding "a.py") :=
    ⟨ho, passes_of_entropy (by rwa [hosecret]) rfl, rfl⟩
  have hcolumn : (o.toFinding "a.py").column = 1 := by
    show (o.offset : Int) + 1 = 1
    omega
  obtain ⟨p, m, _, hm, hp, hsecret, _, _, _, _, hiff⟩ := column_of_assignment hreported horule
  -- the third group of the only match starts behind the sign
  rw [holine] at hm
  have hspan : p.valueSpan = ⟨9, 13⟩ := Option.some.inj (hp.group_eq.symm.trans (hgroup m hm))
  have hstart : p.valueStart = 9 := congrArg Span.start hspan
  refine ⟨o, _, hreported, horule, hcolumn, p, hsecret.symm.trans hosecret, hstart, ?_⟩
  by_contra hnot
  have hat := hiff.2 hnot
  omega

end SecretScan
