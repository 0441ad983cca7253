import SecretScan.Proofs.Sarif.Results

/-!
# Rules of SARIF documents

The rules of a document are a table that grows with the findings, and each result points into the
table by position. `RuleTable` says what the table holds for the findings read so far: their ids and
no others, in the order in which they first appear. It is kept by each further finding, so in the
end every position points to the rule that the finding names, and every rule is pointed to.

## Key results

- `ruleTable_addRule`, `ruleTable_rules`: what one finding, and all findings, add to the table
- `exists_result`: what a result says of its finding
- `document_of_findings`: the rules and the results of the document for any findings
-/

namespace SecretScan.Sarif

/-! ## Ids -/

/-- Is a document the id of a rule, or the lack of one? -/
def IsId (id : Json) : Prop :=
  id = .null ∨ ∃ name, id = .str name

/-- Ids that are texts, or lacking, are the same only if they are equal. -/
private theorem sameId_iff {a b : Json} (ha : IsId a) (hb : IsId b) :
    sameId a b = true ↔ a = b := by
  -- an id is nothing or a text, which are never the same
  obtain rfl | ⟨name, rfl⟩ := ha
  · obtain rfl | ⟨name', rfl⟩ := hb
    · simp [sameId, Json.toValue, Value.same]
    · simp [sameId, Json.toValue, Value.same, Value.magnitude?]
  · obtain rfl | ⟨name', rfl⟩ := hb
    · simp [sameId, Json.toValue, Value.same, Value.magnitude?]
    · simp [sameId, Json.toValue, Value.same]

/-- Has one id appeared at a point at which another has not? -/
def AppearsBefore (ids : List Json) (a b : Json) : Prop :=
  ∃ before, before <+: ids ∧ a ∈ before ∧ b ∉ before

/-- No id appears before itself. -/
theorem AppearsBefore.ne {ids : List Json} {a b : Json} (h : AppearsBefore ids a b) : a ≠ b := by
  obtain ⟨before, _, ha, hb⟩ := h
  rintro rfl
  exact hb ha

/-- Further ids do not change what has appeared before what. -/
theorem AppearsBefore.append {ids : List Json} {a b : Json} (h : AppearsBefore ids a b)
    (more : List Json) : AppearsBefore (ids ++ more) a b := by
  obtain ⟨before, hbefore, ha, hb⟩ := h
  exact ⟨before, hbefore.trans (List.prefix_append ids more), ha, hb⟩

/-! ## The table -/

/-- The ids of rules. -/
def idsOf (rules : List NamedRule) : List Json :=
  rules.map (·.id)

/-- Are these the rules for findings with certain ids? -/
structure RuleTable (ids : List Json) (rules : List NamedRule) : Prop where
  mem_iff : ∀ id, id ∈ idsOf rules ↔ id ∈ ids
  ordered : (idsOf rules).Pairwise (AppearsBefore ids)

/-- No rule is in the table twice. -/
theorem RuleTable.nodup {ids : List Json} {rules : List NamedRule} (h : RuleTable ids rules) :
    (idsOf rules).Nodup :=
  h.ordered.imp AppearsBefore.ne

/-- The position of an id is one at which the id stands; without one, the id is not there. -/
private theorem position?_cases {rules : List NamedRule} {id : Json}
    (hrules : ∀ a ∈ idsOf rules, IsId a)
    (hid : IsId id) :
    (∃ i, position? rules id = some i ∧ (idsOf rules)[i]? = some id) ∨
      position? rules id = none ∧ id ∉ idsOf rules := by
  -- ids are compared as values, which for ids means that they are equal
  have hsame : ∀ r ∈ rules, sameId r.id id = true ↔ r.id = id :=
    fun r hr => sameId_iff (hrules r.id (List.mem_map_of_mem hr)) hid
  unfold position?
  cases hfind : rules.findIdx? fun r => sameId r.id id with
  | some i =>
    obtain ⟨hi, hfound, _⟩ := List.findIdx?_eq_some_iff_getElem.1 hfind
    refine .inl ⟨i, rfl, ?_⟩
    rw [idsOf, List.getElem?_map, List.getElem?_eq_getElem hi, Option.map_some,
      (hsame _ (List.getElem_mem hi)).1 hfound]
  | none =>
    refine .inr ⟨rfl, fun hmem => ?_⟩
    obtain ⟨r, hr, hid'⟩ := List.mem_map.1 hmem
    have hnot := List.findIdx?_eq_none_iff.1 hfind r hr
    rw [(hsame r hr).2 hid'] at hnot
    cases hnot

/-- One more finding adds its id to the table, unless it is there. -/
theorem ruleTable_addRule {ids : List Json} {rules : List NamedRule} (h : RuleTable ids rules)
    (hids : ∀ id ∈ ids, IsId id) {finding : Json} (hfinding : IsId (ruleId finding)) :
    RuleTable (ids ++ [ruleId finding]) (addRule rules finding) := by
  have hrules : ∀ a ∈ idsOf rules, IsId a := fun a ha => hids a ((h.mem_iff a).1 ha)
  have hordered : (idsOf rules).Pairwise (AppearsBefore (ids ++ [ruleId finding])) :=
    h.ordered.imp fun hbefore => hbefore.append _
  unfold addRule
  simp only []
  obtain ⟨i, hposition, hat⟩ | ⟨hposition, hnew⟩ := position?_cases hrules hfinding
  · -- the id is not new, and the table stays as it is
    rw [hposition]
    have hmem := List.mem_of_getElem? hat
    refine ⟨fun id => ?_, hordered⟩
    rw [h.mem_iff, List.mem_append, List.mem_singleton]
    refine ⟨.inl, ?_⟩
    rintro (hid | rfl)
    · exact hid
    · exact (h.mem_iff _).1 hmem
  · -- all ids of the table have appeared before this one
    rw [hposition]
    have happend : idsOf (rules ++ [⟨ruleId finding, kindOf finding, severityOf finding⟩]) =
        idsOf rules ++ [ruleId finding] := by
      simp [idsOf]
    refine ⟨fun id => ?_, ?_⟩
    · rw [happend, List.mem_append, List.mem_append, h.mem_iff]
    · rw [happend, List.pairwise_append]
      refine ⟨hordered, List.pairwise_singleton _ _, fun a ha b hb => ?_⟩
      obtain rfl := List.mem_singleton.1 hb
      have habsent : ruleId finding ∉ ids := fun hmem => hnew ((h.mem_iff _).2 hmem)
      exact ⟨ids, List.prefix_append _ _, (h.mem_iff a).1 ha, habsent⟩

/-- The table of all findings holds their ids in the order of first appearance. -/
theorem ruleTable_rules {findings : List Json} (h : ∀ f ∈ findings, IsId (ruleId f)) :
    RuleTable (findings.map ruleId) (rules findings) := by
  -- the findings come in order, and each adds its rule at the end or not at all
  induction findings using List.reverseRecOn with
  | nil => exact ⟨fun id => Iff.rfl, List.Pairwise.nil⟩
  | append_singleton findings f ih =>
    obtain ⟨hfindings, hf⟩ := List.forall_mem_append.1 h
    have hids : ∀ id ∈ findings.map ruleId, IsId id := by
      intro id hid
      obtain ⟨f', hf', rfl⟩ := List.mem_map.1 hid
      exact hfindings f' hf'
    have hrules : rules (findings ++ [f]) = addRule (rules findings) f := List.foldl_append
    rw [hrules, List.map_append, List.map_singleton]
    exact ruleTable_addRule (ih hfindings) hids (hf f (List.mem_singleton_self f))

/-- In the end the id of every finding has a position. -/
private theorem exists_position? {findings : List Json} (h : ∀ f ∈ findings, IsId (ruleId f))
    {f : Json}
    (hf : f ∈ findings) : ∃ i, position? (rules findings) (ruleId f) = some i ∧
      (idsOf (rules findings))[i]? = some (ruleId f) := by
  have htable := ruleTable_rules h
  have hrules : ∀ a ∈ idsOf (rules findings), IsId a := by
    intro a ha
    obtain ⟨f', hf', rfl⟩ := List.mem_map.1 ((htable.mem_iff a).1 ha)
    exact h f' hf'
  -- the id of a finding is in the table, as the table has all of them
  obtain hposition | ⟨_, habsent⟩ := position?_cases hrules (h f hf)
  · exact hposition
  · exact absurd ((htable.mem_iff _).2 (List.mem_map_of_mem hf)) habsent

/-! ## Results -/

/-- Is this a finding of a report: does it name its rule by a text if at all, and its line and its
column by whole numbers if at all? -/
structure IsFinding (finding : Json) : Prop where
  isObject : ∃ members, finding = .obj members
  isId : ∀ id ∈ finding.get? "ruleId", IsId id
  line : ∀ v ∈ finding.get? "line", ∃ n, v = .int n
  column : ∀ v ∈ finding.get? "column", ∃ n, v = .int n

/-- A finding without an id has one that stands for it. -/
theorem IsFinding.isId_ruleId {finding : Json} (h : IsFinding finding) : IsId (ruleId finding) := by
  unfold ruleId Json.getD
  cases hid : finding.get? "ruleId" with
  | none => exact .inr ⟨"UNKNOWN", rfl⟩
  | some id => exact h.isId id hid

/-- A finding of a report can be listed. -/
private theorem IsFinding.checkFinding_eq {finding : Json} (h : IsFinding finding) :
    checkFinding finding = .ok () := by
  obtain ⟨members, rfl⟩ := h.isObject
  have hkey : (ruleId (.obj members)).toValue.isKey = true := by
    obtain hid | ⟨name, hid⟩ := h.isId_ruleId <;> rw [hid] <;> rfl
  unfold checkFinding
  exact if_pos hkey

/-- Only what is severe has the level of errors. -/
private theorem level_eq_error_iff (severity : Json) :
    level severity = "error" ↔ severity = .str "high" := by
  unfold level
  split
  · simp
  · next hne => simpa using hne

/-- The place that a result names. -/
def placeOf? (result : Json) : Option Json := do
  match ← result.get? "locations" with
  | .arr [location] => location.get? "physicalLocation"
  | _ => none

/-- A member of the region of a result. -/
def regionMember? (result : Json) (key : String) : Option Json := do
  (← (← placeOf? result).get? "region").get? key

/-- The file that a result names. -/
def fileOf? (result : Json) : Option Json := do
  (← (← placeOf? result).get? "artifactLocation").get? "uri"

/-- The hash by which results are told apart. -/
def hashOf? (result : Json) : Option Json := do
  (← result.get? "partialFingerprints").get? "secretHash"

/-- Is this the result of a finding, in a document that lists rules with these ids? -/
structure Describes (ids : List Json) (finding result : Json) : Prop where
  ruleId_eq : result.get? "ruleId" = some (ruleId finding)
  ruleIndex : ∃ i : Nat, result.get? "ruleIndex" = some (.int i) ∧ ids[i]? = some (ruleId finding)
  level_iff : result.get? "level" = some (.str "error") ↔
    finding.get? "severity" = some (.str "high")
  startLine : ∃ n, regionMember? result "startLine" = some (.int n) ∧ 1 ≤ n ∧
    ∀ m, finding.get? "line" = some (.int m) → 1 ≤ m → n = m
  startColumn : ∃ n, regionMember? result "startColumn" = some (.int n) ∧ 1 ≤ n ∧
    ∀ m, finding.get? "column" = some (.int m) → 1 ≤ m → n = m
  file_eq : fileOf? result = some (finding.getD "file" (.str ""))
  hash_eq : hashOf? result = some (finding.getD "hash" (.str ""))

/-- Every finding has a result, which describes it. -/
theorem exists_result {findings : List Json} (h : ∀ f ∈ findings, IsFinding f) {f : Json}
    (hf : f ∈ findings) : ∃ r, result (rules findings) f = .ok r ∧
      Describes (idsOf (rules findings)) f r := by
  obtain ⟨i, hposition, hat⟩ := exists_position? (fun f hf => (h f hf).isId_ruleId) hf
  obtain ⟨line, hline, hlinePos, hlineEq⟩ := exists_coordinate_eq (h f hf).line
  obtain ⟨column, hcolumn, hcolumnPos, hcolumnEq⟩ := exists_coordinate_eq (h f hf).column
  have hlevel : level (severityOf f) = "error" ↔ f.get? "severity" = some (.str "high") := by
    rw [level_eq_error_iff, severityOf, Json.getD]
    cases f.get? "severity" <;> simp
  unfold result
  -- the members of the result are read off its definition
  rw [hline, ok_bind, hcolumn, ok_bind, hposition]
  refine ⟨_, rfl, rfl, ⟨i, rfl, hat⟩, ?_, ⟨line, rfl, hlinePos, hlineEq⟩,
    ⟨column, rfl, hcolumnPos, hcolumnEq⟩, rfl, rfl⟩
  rw [← hlevel]
  simp [Json.get?, List.lookup]

/-! ## The document -/

/-- The rules of a document. -/
def rulesOf? (document : Json) : Option (List Json) := do
  match ← document.get? "runs" with
  | .arr [run] =>
    let driver ← (← run.get? "tool").get? "driver"
    match ← driver.get? "rules" with
    | .arr rules => some rules
    | _ => none
  | _ => none

/-- The rules of a document are those that its findings name. -/
private theorem rulesOf?_of_ofReport {job : Job} {report document : Json} {findings : List Json}
    (hfindings : findingsOf report = .ok findings) (h : ofReport job report = .ok document) :
    rulesOf? document = some ((rules findings).map NamedRule.toJson) := by
  unfold ofReport at h
  rw [hfindings, ok_bind] at h
  -- the results do not change the table of rules
  obtain ⟨_, _, h⟩ := bind_eq_ok h
  obtain ⟨results, _, h⟩ := bind_eq_ok h
  obtain rfl := Except.ok.inj h
  rfl

/-- The document for any findings has one result for each of them, in their order, and lists the
rules that they name, each once, in the order in which they first appear. Every result points to its
rule, and every rule is pointed to. -/
theorem document_of_findings {job : Job} {report : Json} {findings : List Json}
    (hreport : report.get? "findings" = some (.arr findings))
    (hfindings : ∀ f ∈ findings, IsFinding f) :
    ∃ document rules results ids, ofReport job report = .ok document ∧
      rulesOf? document = some rules ∧ resultsOf? document = some results ∧
      List.Forall₂ (Describes ids) findings results ∧
      rules.map (·.get? "id") = ids.map some ∧
      ids.Nodup ∧ ids.Pairwise (AppearsBefore (findings.map ruleId)) ∧
      ∀ i < rules.length, ∃ r ∈ results, r.get? "ruleIndex" = some (.int i) := by
  have hids : ∀ f ∈ findings, IsId (ruleId f) := fun f hf => (hfindings f hf).isId_ruleId
  have htable := ruleTable_rules hids
  have hfound : findingsOf report = .ok findings := by
    unfold findingsOf
    cases report with
    | obj members => simp [Json.getD, hreport]
    | _ => simp [Json.get?] at hreport
  have hresult : ∀ f ∈ findings, ∃ r, result (rules findings) f = .ok r ∧
      Describes (idsOf (rules findings)) f r := fun f hf => exists_result hfindings hf
  obtain ⟨document, results, hdocument, hresults, hall⟩ : ∃ document results,
      ofReport job report = .ok document ∧ resultsOf? document = some results ∧
        List.Forall₂ (fun f r => result (rules findings) f = .ok r) findings results :=
    ofReport_eq_ok hfound (fun f hf => (hfindings f hf).checkFinding_eq)
      fun f hf => (hresult f hf).imp fun _ h => h.1
  -- what a finding was converted to is the result that describes it
  have hdescribed : List.Forall₂ (Describes (idsOf (rules findings))) findings results := by
    have hboth := (List.forall₂_and_left _ _).2 ⟨fun f hf => hf, hall⟩
    refine hboth.imp fun f r hfr => ?_
    obtain ⟨r', hr', hdescribes⟩ := hresult f hfr.1
    obtain rfl := Except.ok.inj (hfr.2.symm.trans hr')
    exact hdescribes
  refine ⟨document, _, results, idsOf (rules findings), hdocument,
    rulesOf?_of_ofReport hfound hdocument, hresults, hdescribed, ?_, htable.nodup,
    htable.ordered, ?_⟩
  · rw [idsOf, List.map_map, List.map_map]
    rfl
  · intro i hi
    rw [List.length_map] at hi
    have hlength : i < (idsOf (rules findings)).length := by
      rwa [idsOf, List.length_map]
    -- some finding has the id of the rule, and the id stands nowhere else
    obtain ⟨f, hf, hid⟩ := List.mem_map.1 ((htable.mem_iff _).1 (List.getElem_mem hlength))
    obtain ⟨k, hk, rfl⟩ := List.getElem_of_mem hf
    have hk' : k < results.length := hdescribed.length_eq ▸ hk
    obtain ⟨j, hj, hat⟩ := (hdescribed.get hk hk').ruleIndex
    obtain ⟨hj', hat⟩ := List.getElem?_eq_some_iff.1 hat
    refine ⟨_, List.getElem_mem hk', ?_⟩
    obtain rfl : j = i := htable.nodup.getElem_inj_iff.1 (hat.trans hid)
    exact hj

/-- Three findings, the first and the last of one rule, the other without one. -/
def threeFindings : List Json :=
  [.obj [("ruleId", .str "STRIPE_LIVE"), ("severity", .str "high"), ("line", .int 3)],
    .obj [("line", .int 0), ("column", .int 7)],
    .obj [("ruleId", .str "STRIPE_LIVE")]]

/-- Three findings, two of them of one rule. -/
theorem document_of_threeFindings :
    Json.get? "findings" (.obj [("findings", .arr threeFindings)]) = some (.arr threeFindings) ∧
      (∀ f ∈ threeFindings, IsFinding f) ∧
      ∃ document rules results,
        ofReport {} (.obj [("findings", .arr threeFindings)]) = .ok document ∧
        rulesOf? document = some rules ∧ resultsOf? document = some results ∧
        results.length = 3 ∧ (rules.map (·.get? "id")).Nodup := by
  have hreport : Json.get? "findings" (.obj [("findings", .arr threeFindings)]) =
      some (.arr threeFindings) := rfl
  have hfindings : ∀ f ∈ threeFindings, IsFinding f := by
    simp only [threeFindings, List.forall_mem_cons]
    refine ⟨⟨⟨_, rfl⟩, ?_, ?_, ?_⟩, ⟨⟨_, rfl⟩, ?_, ?_, ?_⟩, ⟨⟨_, rfl⟩, ?_, ?_, ?_⟩, nofun⟩ <;>
      simp [Json.get?, List.lookup, IsId]
  obtain ⟨document, rules, results, ids, hdocument, hrules, hresults, hall, hids, hnodup, _⟩ :=
    document_of_findings hreport hfindings
  -- the ids of the rules are those of the table, none of which is there twice
  refine ⟨hreport, hfindings, document, rules, results, hdocument, hrules, hresults,
    hall.length_eq.symm, ?_⟩
  rw [hids]
  exact hnodup.map (Option.some_injective Json)

end SecretScan.Sarif
