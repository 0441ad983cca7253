import SecretScan.Proofs.Detection.Anchors
import SecretScan.Proofs.Detection.Coverage
import SecretScan.Proofs.Detection.LineByLine

/-!
# The order of findings

Each rule goes over a line by itself, so the findings of one rule are the same whatever other rules
there are. The findings of a text come line by line, on a line rule by rule in the order of the
catalog, and for one rule from left to right: the credential of a match is within the match, and
matches of one rule do not overlap.

## Key results

- `Rule.pairwise_offset`: a rule finds credentials from left to right
- `pairwise_findingsOn`: the findings on a line come in the order of rules, then of columns
- `detect_in_order`: the findings of a rule are its own, and those of the catalog are in order
-/

namespace SecretScan

open Text Pattern

/-! ## One rule -/

/-- The credential of a match starts within the match. -/
private theorem Rule.start_add_distance_lt {r : Rule} (hlook : r.pattern.root.looksAround = false)
    {s : Subject} {m : Match} (hm : m ∈ r.pattern.findAll s) (hne : (r.secretOf s m).1 ≠ []) :
    m.span.start + (r.secretOf s m).2 < m.span.stop := by
  have hle := (Rule.standsAt_secretOf_text hlook hm).length_le hne
  have hpos := List.length_pos_iff.2 hne
  have hstop := start_add_length_text hm
  omega

/-- A rule finds credentials from left to right, if it does not look around and matches nothing
empty. -/
theorem Rule.pairwise_offset {r : Rule} (hlook : r.pattern.root.looksAround = false)
    (hpos : 1 ≤ (r.pattern.root.width []).least) (number : Nat) (line : List Char) :
    (r.occurrences number line).Pairwise (·.offset < ·.offset) := by
  unfold Rule.occurrences
  rw [List.pairwise_filterMap]
  refine (pairwise_findAll hpos line.toArray).imp_of_mem fun {m m'} hm _ hle o ho o' ho' => ?_
  obtain ⟨hne, ho⟩ := Option.ite_none_left_eq_some.1 ho
  obtain ⟨_, ho'⟩ := Option.ite_none_left_eq_some.1 ho'
  obtain rfl := Option.some.inj ho
  obtain rfl := Option.some.inj ho'
  -- the next match starts where this one stops or further right
  have hlt := Rule.start_add_distance_lt hlook hm (List.isEmpty_iff.not.1 hne)
  exact Nat.lt_of_lt_of_le hlt (Nat.le_trans hle (Nat.le_add_right _ _))

/-! ## The catalog -/

/-- The place of a rule in the catalog. -/
def Catalog.position (id : String) : Nat :=
  rules.findIdx (·.id == id)

/-- The positions of the rules are in the order of the catalog. -/
private theorem Catalog.pairwise_position :
    rules.Pairwise fun r r' => position r.id < position r'.id := by
  decide

/-- The built-in rules match nothing empty. -/
theorem Catalog.least_pos : ∀ r ∈ rules, 1 ≤ (r.pattern.root.width []).least := by
  decide

/-- No built-in rule asks for a group that its pattern does not have. -/
private theorem Catalog.lacksGroup_eq_false : ∀ r ∈ rules, r.lacksGroup = false := by
  decide

/-- Where a finding comes among others: by its line, then by the place of its rule in the catalog,
then by its column. -/
def Finding.orderKey (f : Finding) : ℤ ×ₗ ℕ ×ₗ ℤ :=
  toLex (f.line, toLex (Catalog.position f.ruleId, f.column))

/-- What the order of findings goes by: the line, then the rule, then the column. -/
theorem Finding.orderKey_lt_iff {f g : Finding} :
    f.orderKey < g.orderKey ↔ f.line < g.line ∨ f.line = g.line ∧
      (Catalog.position f.ruleId < Catalog.position g.ruleId ∨
        Catalog.position f.ruleId = Catalog.position g.ruleId ∧ f.column < g.column) := by
  simp [orderKey, Prod.Lex.toLex_lt_toLex]

section

variable {options : DetectionOptions}

/-- What is found on a line carries its number. -/
private theorem line_of_mem_findingsOn {number : Nat} {line : List Char} {f : Finding}
    (h : f ∈ findingsOn options number line) : f.line = number := by
  rw [findingsOn_eq_map] at h
  obtain ⟨_, _, rfl⟩ := List.mem_map.1 h
  rfl

/-- The findings on a line come in the order of rules, then of columns. -/
theorem pairwise_findingsOn (hrules : options.rules = Catalog.rules) (number : Nat)
    (line : List Char) :
    (findingsOn options number line).Pairwise (·.orderKey < ·.orderKey) := by
  have hall : (options.rules.flatMap fun r => r.occurrences number line).Pairwise fun o o' =>
      (o.toFinding options.path).orderKey < (o'.toFinding options.path).orderKey := by
    rw [hrules, List.pairwise_flatMap]
    constructor
    · -- one rule: by column
      intro r hr
      have hlook := (Catalog.rule_of_mem r hr).1
      have hleast := Catalog.least_pos r hr
      refine (Rule.pairwise_offset hlook hleast number line).imp_of_mem fun ho ho' hlt => ?_
      obtain ⟨m, _, _, rfl⟩ := Rule.mem_occurrences_iff.1 ho
      obtain ⟨m', _, _, rfl⟩ := Rule.mem_occurrences_iff.1 ho'
      refine Finding.orderKey_lt_iff.2 (.inr ⟨rfl, .inr ⟨rfl, ?_⟩⟩)
      simp only [Occurrence.toFinding] at hlt ⊢
      omega
    · -- two rules: by their places
      refine Catalog.pairwise_position.imp fun hlt o ho o' ho' => ?_
      obtain ⟨m, _, _, rfl⟩ := Rule.mem_occurrences_iff.1 ho
      obtain ⟨m', _, _, rfl⟩ := Rule.mem_occurrences_iff.1 ho'
      exact Finding.orderKey_lt_iff.2 (.inr ⟨rfl, .inl hlt⟩)
  unfold findingsOn
  -- what is filtered out leaves the others in order
  rw [List.pairwise_map]
  exact hall.filter _

/-- The findings of the catalog come in the order of lines, then of rules, then of columns. -/
private theorem pairwise_detect (hrules : options.rules = Catalog.rules) (text : List Char) :
    (detect text options).Pairwise (·.orderKey < ·.orderKey) := by
  -- the lines are numbered upwards, and the findings of one line are in order by themselves
  have hnumbers : ((lines text).zipIdx 1).Pairwise fun numbered numbered' =>
      numbered.2 < numbered'.2 := by
    rw [← List.pairwise_map (f := Prod.snd) (R := (· < ·)), List.zipIdx_map_snd]
    exact List.pairwise_lt_range'
  rw [detect_eq_flatMap, List.pairwise_flatMap]
  refine ⟨fun numbered _ => pairwise_findingsOn hrules numbered.2 numbered.1,
    hnumbers.imp fun {numbered numbered'} hlt f hf g hg => ?_⟩
  have hline := line_of_mem_findingsOn hf
  have hline' := line_of_mem_findingsOn hg
  exact Finding.orderKey_lt_iff.2 (.inl (by omega))

end

/-- Of rules with different identifiers, each has the findings that it has by itself, in the same
order, and can be applied exactly if it can be applied by itself. With the rules of the catalog,
all of which can be applied, the findings come in the order of lines, then of rules, then of
columns, and no two of them are at the same place. -/
theorem detect_in_order {options : DetectionOptions} (hnodup : (options.rules.map (·.id)).Nodup)
    (text : List Char) :
    (∀ r ∈ options.rules, (detect text options).filter (·.ruleId == r.id) =
      detect text { options with rules := [r] }) ∧
    (asksForMissingGroup text options.rules = true ↔
      ∃ r ∈ options.rules, asksForMissingGroup text [r] = true) ∧
    asksForMissingGroup text Catalog.rules = false ∧
    (detect text { options with rules := Catalog.rules }).Pairwise (·.orderKey < ·.orderKey) := by
  refine ⟨fun r hr => ?_, ?_, ?_, pairwise_detect rfl text⟩
  · -- of all findings those of one rule are left
    rw [filter_ruleId_detect (· == r.id), filter_id_eq hnodup hr]
  · simp [asksForMissingGroup_iff]
  · -- no rule of the catalog has a group that its pattern lacks
    rw [← Bool.not_eq_true, asksForMissingGroup_iff]
    rintro ⟨r, hr, hlacks, _⟩
    rw [Catalog.lacksGroup_eq_false r hr] at hlacks
    cases hlacks

/-- A line with a key that is also the value of an assignment. -/
def assignedKey : List Char :=
  "token=sk-aaaaaaaaaaaaaaaabbbbbbbbcdefg".toList

/-- Two rules report the key, each of them as it does by itself. -/
theorem detect_in_order_assignedKey :
    (Catalog.rules.map (·.id)).Nodup ∧
      (∀ r ∈ [Catalog.openaiKey, Catalog.genericSecret],
        ∃ f ∈ detect assignedKey { path := "a.py", entropyThreshold := 0 },
          f.ruleId = r.id ∧ f.column = 7 ∧
          f ∈ detect assignedKey { path := "a.py", entropyThreshold := 0, rules := [r] }) ∧
      (detect assignedKey { path := "a.py", entropyThreshold := 0 }).Pairwise
        (·.orderKey < ·.orderKey) := by
  obtain ⟨hown, _, _, hordered⟩ := @detect_in_order { path := "a.py", entropyThreshold := 0 }
    Catalog.nodup_ids assignedKey
  refine ⟨Catalog.nodup_ids, fun r hr => ?_, hordered⟩
  have hline : (assignedKey, 1) ∈ (lines assignedKey).zipIdx 1 := by decide
  -- both scans are run
  have hfound : ∀ r ∈ [Catalog.openaiKey, Catalog.genericSecret],
      ("sk-aaaaaaaaaaaaaaaabbbbbbbbcdefg".toList, 6) ∈
        (r.occurrences 1 assignedKey).map fun o => (o.secret, o.offset) := by
    decide +kernel
  have hentropy : ¬ entropy "sk-aaaaaaaaaaaaaaaabbbbbbbbcdefg".toList < 0 := by decide +kernel
  have hrule : r ∈ Catalog.rules := by
    obtain rfl | rfl : r = Catalog.openaiKey ∨ r = Catalog.genericSecret := by simpa using hr
    · simp [Catalog.rules]
    · simp [Catalog.rules]
  obtain ⟨o, ho, rfl, _, _, hosecret, hooffset⟩ :=
    exists_mem_occurrences hline hrule (hfound r hr)
  have hmem : o.toFinding "a.py" ∈
      detect assignedKey { path := "a.py", entropyThreshold := 0 } :=
    mem_detect_iff.2 ⟨o, ho, passes_of_entropy (by rwa [hosecret]) rfl, rfl⟩
  refine ⟨_, hmem, rfl, by simp [Occurrence.toFinding, hooffset], ?_⟩
  rw [← hown o.rule hrule]
  exact List.mem_filter.2 ⟨hmem, beq_self_eq_true o.rule.id⟩

end SecretScan
