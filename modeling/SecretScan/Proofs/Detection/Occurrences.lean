import SecretScan.Detection
import SecretScan.Proofs.Pattern.Groups
import SecretScan.Proofs.Text.Replacement

/-!
# Occurrences in a text

Findings are made for occurrences, and occurrences come from the matches of rules on lines. This
module takes both apart: what is known of a finding of a text, and of an occurrence in it.

## Key results

- `mem_detect_iff`: findings are made for the reported occurrences
- `found_of_mem_occurrences`: an occurrence is on a line of the text and is matched by its rule
- `Rule.standsAt_secretOf_text`, `Rule.standsAt_secretOf`: a credential stands where it is said to,
  in the match and in the line
-/

namespace SecretScan

open Text Pattern

/-- Is `f` the finding that is made for an occurrence in a text? -/
structure Reported (text : List Char) (options : DetectionOptions) (o : Occurrence)
    (f : Finding) : Prop where
  mem : o ∈ occurrences text options.rules
  passes : o.passes options = true
  eq : f = o.toFinding options.path

/-- The findings of a text are those that are made for its occurrences. -/
theorem mem_detect_iff {text : List Char} {options : DetectionOptions} {f : Finding} :
    f ∈ detect text options ↔ ∃ o, Reported text options o f := by
  unfold detect
  rw [List.mem_map]
  -- what is reported is an occurrence that passes, and the finding is made of it
  constructor
  · rintro ⟨o, ho, rfl⟩
    obtain ⟨hmem, hpasses⟩ := List.mem_filter.1 ho
    exact ⟨o, hmem, hpasses, rfl⟩
  · rintro ⟨o, hmem, hpasses, rfl⟩
    exact ⟨o, List.mem_filter.2 ⟨hmem, hpasses⟩, rfl⟩

/-- The preview of a finding is the mask of its secret. -/
theorem toList_matchPreview (o : Occurrence) (path : String) :
    (o.toFinding path).matchPreview.toList = mask o.secret := by
  simp [Occurrence.toFinding]

/-- The context of a finding is its line with the secret masked. -/
theorem toList_context (o : Occurrence) (path : String) :
    (o.toFinding path).context.toList = maskInContext o.line o.secret (mask o.secret) := by
  simp [Occurrence.toFinding]

/-- The text of a span stands in the text. -/
private theorem infix_text (s : Subject) (span : Span) : span.text s <:+: s.toList :=
  (List.take_prefix _ _).isInfix.trans (List.drop_suffix _ _).isInfix

/-- The credential of a match stands in the line. -/
theorem Rule.infix_secretOf (r : Rule) (line : List Char) (m : Match) :
    (r.secretOf line.toArray m).1 <:+: line := by
  -- whichever group is reported, it is a piece of the line
  have htext : ∀ span : Span, span.text line.toArray <:+: line := infix_text line.toArray
  unfold Rule.secretOf
  split
  · exact htext _
  · simp only
    split
    · exact htext _
    · exact htext _

/-- The credential of a match stands in it as far behind its start as it is said to, if the rule
does not look around. -/
theorem Rule.standsAt_secretOf_text {r : Rule} (hlook : r.pattern.root.looksAround = false)
    {s : Subject} {m : Match} (hm : m ∈ r.pattern.findAll s) :
    StandsAt (r.secretOf s m).1 (m.span.text s) (r.secretOf s m).2 := by
  unfold Rule.secretOf
  -- without a group for the secret, the secret is the whole match
  split
  · exact List.prefix_rfl
  · next span hspan =>
    simp only
    split
    · exact List.prefix_rfl
    · -- the group is part of the match, so it is found in it
      obtain ⟨_, _, hgroup⟩ := Option.bind_eq_some_iff.1 hspan
      obtain ⟨i, hfind, hstands, _⟩ :=
        exists_find?_eq_some (infix_text_of_mem_findAll hlook hm hgroup)
      rwa [hfind, Option.getD_some]

/-- The credential of a match stands where it is said to, if the rule does not look around. -/
theorem Rule.standsAt_secretOf {r : Rule} (hlook : r.pattern.root.looksAround = false)
    {line : List Char} {m : Match} (hm : m ∈ r.pattern.findAll line.toArray) :
    StandsAt (r.secretOf line.toArray m).1 line (m.span.start + (r.secretOf line.toArray m).2) := by
  -- the whole match stands where it starts, and the secret stands within it
  have hwhole : m.span.text line.toArray <+: line.drop m.span.start := List.take_prefix _ _
  obtain ⟨rest, hrest⟩ := hwhole
  have hline := standsAt_append_left rest (Rule.standsAt_secretOf_text hlook hm)
  rw [hrest] at hline
  unfold StandsAt at hline ⊢
  rwa [List.drop_drop] at hline

/-- What a rule finds on a line comes from its matches. -/
theorem Rule.mem_occurrences_iff {r : Rule} {number : Nat} {line : List Char} {o : Occurrence} :
    o ∈ r.occurrences number line ↔ ∃ m ∈ r.pattern.findAll line.toArray,
      (r.secretOf line.toArray m).1 ≠ [] ∧ o = ⟨r, number, line, (r.secretOf line.toArray m).1,
        m.span.start + (r.secretOf line.toArray m).2⟩ := by
  unfold Rule.occurrences
  simp only [List.mem_filterMap]
  refine exists_congr fun m => and_congr_right fun _ => ?_
  -- an empty secret is left out, and any other is kept
  split
  · next hempty => simp [List.isEmpty_iff.1 hempty]
  · next hne => simp [List.isEmpty_iff.not.1 hne, eq_comm]

/-- What is known of an occurrence that rules find in a text. -/
structure Occurrence.Found (text : List Char) (rules : List Rule) (o : Occurrence) : Prop where
  rule_mem : o.rule ∈ rules
  line_mem : (o.line, o.lineNumber) ∈ (lines text).zipIdx 1
  secret_ne : o.secret ≠ []
  secret_eq : ∃ m ∈ o.rule.pattern.findAll o.line.toArray,
    (o.rule.secretOf o.line.toArray m).1 = o.secret
  standsAt : o.rule.pattern.root.looksAround = false → StandsAt o.secret o.line o.offset

/-- Every occurrence has been found on a line of the text, by a rule. -/
theorem found_of_mem_occurrences {text : List Char} {rules : List Rule} {o : Occurrence}
    (h : o ∈ occurrences text rules) : o.Found text rules := by
  -- line by line, rule by rule, match by match
  unfold occurrences at h
  obtain ⟨⟨line, number⟩, hline, h⟩ := List.mem_flatMap.1 h
  obtain ⟨r, hr, h⟩ := List.mem_flatMap.1 h
  obtain ⟨m, hm, hne, rfl⟩ := Rule.mem_occurrences_iff.1 h
  exact ⟨hr, hline, hne, ⟨m, hm, rfl⟩, fun hlook => Rule.standsAt_secretOf hlook hm⟩

section

variable {text : List Char} {rules : List Rule} {o o' : Occurrence}

/-- The secret of an occurrence stands in its line. -/
theorem Occurrence.Found.infix_line (h : o.Found text rules) : o.secret <:+: o.line := by
  obtain ⟨m, _, hsecret⟩ := h.secret_eq
  rw [← hsecret]
  exact o.rule.infix_secretOf o.line m

/-- A rule without a group for the credential takes the whole match. -/
theorem Occurrence.Found.exists_match (h : o.Found text rules)
    (hgroup : o.rule.secretGroup = none) :
    ∃ m ∈ o.rule.pattern.findAll o.line.toArray, m.span.text o.line.toArray = o.secret := by
  obtain ⟨m, hm, hsecret⟩ := h.secret_eq
  refine ⟨m, hm, ?_⟩
  rw [← hsecret, Rule.secretOf, hgroup]
  rfl

/-- Occurrences with the same line number are on the same line. -/
theorem Occurrence.Found.line_eq (h : o.Found text rules) (h' : o'.Found text rules)
    (hnumber : o.lineNumber = o'.lineNumber) : o.line = o'.line := by
  -- a line is where its number says
  have hline := (List.mk_mem_zipIdx_iff_le_and_getElem?_sub.1 h.line_mem).2
  have hline' := (List.mk_mem_zipIdx_iff_le_and_getElem?_sub.1 h'.line_mem).2
  rw [hnumber, hline'] at hline
  exact (Option.some.inj hline).symm

end

/-- What a rule finds on a line of a text is among the occurrences of the text. -/
theorem exists_mem_occurrences {text line secret : List Char} {number offset : Nat} {r : Rule}
    {rules : List Rule} (hline : (line, number) ∈ (lines text).zipIdx 1) (hr : r ∈ rules)
    (h : (secret, offset) ∈ (r.occurrences number line).map fun o => (o.secret, o.offset)) :
    ∃ o ∈ occurrences text rules, o.rule = r ∧ o.line = line ∧ o.lineNumber = number ∧
      o.secret = secret ∧ o.offset = offset := by
  obtain ⟨o, ho, heq⟩ := List.mem_map.1 h
  obtain ⟨hsecret, hoffset⟩ := Prod.mk.inj heq
  -- the line is one of the lines and the rule one of the rules
  have hmem : o ∈ occurrences text rules :=
    List.mem_flatMap.2 ⟨(line, number), hline, List.mem_flatMap.2 ⟨r, hr, ho⟩⟩
  obtain ⟨m, _, _, rfl⟩ := Rule.mem_occurrences_iff.1 ho
  exact ⟨_, hmem, rfl, rfl, rfl, hsecret, hoffset⟩

/-- A rule that does not ask for entropy reports all it finds, if nothing is suppressed. -/
theorem passes_of_not_requiresEntropy {o : Occurrence} {options : DetectionOptions}
    (hentropy : o.rule.requiresEntropy = false) (hnone : options.suppressions = []) :
    o.passes options = true := by
  simp [Occurrence.passes, Occurrence.isSuppressed, Occurrence.lacksEntropy, hentropy, hnone]

/-- What has enough entropy is reported, if nothing is suppressed. -/
theorem passes_of_entropy {o : Occurrence} {options : DetectionOptions}
    (hentropy : ¬ entropy o.secret < options.entropyThreshold)
    (hnone : options.suppressions = []) : o.passes options = true := by
  simp [Occurrence.passes, Occurrence.isSuppressed, Occurrence.lacksEntropy, hentropy, hnone]

end SecretScan
