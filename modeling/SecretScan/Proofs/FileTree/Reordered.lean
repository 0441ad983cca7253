import SecretScan.Proofs.FileTree.WellFormed

/-!
# The order of directory entries

An operating system may list the entries of a directory in any order. `FileTree.Reordered` relates
two snapshots of the same files that differ in such orders only, at any depth.

Main statements: two such trees have the same at every path, up to the order within directories
(`find?_reordered`), paths lead to the same places in both (`locate_reordered`), and path texts
resolve to the same paths (`resolve_reordered`).
-/

namespace SecretScan

mutual

/-- Do two entries hold the same, listed in orders that may differ? -/
def Entry.Reordered : Entry → Entry → Prop
  | .file content, e => e = .file content
  | .link target, e => e = .link target
  | .dir entries, e => ∃ same entries', ReorderedIn entries same ∧ same.Perm entries' ∧
      e = .dir entries'

/-- Do two lists have the same names in the same order, for entries that hold the same? -/
def ReorderedIn : List (String × Entry) → List (String × Entry) → Prop
  | [], l => l = []
  | (name, e) :: rest, l => ∃ e' rest', l = (name, e') :: rest' ∧ e.Reordered e' ∧
      ReorderedIn rest rest'

end

/-- Do two trees show the same files, listed in orders that may differ? -/
def FileTree.Reordered (t t' : FileTree) : Prop :=
  (Entry.dir t.entries).Reordered (.dir t'.entries)

namespace FileTree

/-- Only directories can differ. -/
private theorem eq_of_reordered {e e' : Entry} (h : e.Reordered e')
    (hdir : ∀ entries, e' ≠ .dir entries) :
    e = e' := by
  -- files and links stay what they are; only directories are reordered
  cases e with
  | file content => exact Eq.symm h
  | link target => exact Eq.symm h
  | dir entries =>
    obtain ⟨_, entries', _, _, he'⟩ := h
    exact absurd he' (hdir entries')

/-! ## Well-formed directories in another order -/

/-- Entries are well-formed if each of them is and no name comes twice. -/
private theorem wellFormedIn_iff (entries : List (String × Entry)) :
    WellFormedIn entries ↔
      (∀ p ∈ entries, IsName p.1 ∧ p.2.WellFormed) ∧ (entries.map Prod.fst).Nodup := by
  induction entries with
  | nil => simp [WellFormedIn]
  | cons p rest ih =>
    obtain ⟨name, e⟩ := p
    simp only [WellFormedIn, ih, List.forall_mem_cons, List.map_cons, List.nodup_cons, List.mem_map]
    constructor
    · rintro ⟨hname, hne, he, hrest, hnodup⟩
      exact ⟨⟨⟨hname, he⟩, hrest⟩, fun ⟨p, hp, h⟩ => hne p hp h, hnodup⟩
    · rintro ⟨⟨⟨hname, he⟩, hrest⟩, hne, hnodup⟩
      exact ⟨hname, fun p hp h => hne ⟨p, hp, h⟩, he, hrest, hnodup⟩

/-- In a well-formed directory a name stands for one entry. -/
theorem child?_eq_some_iff {entries : List (String × Entry)} (hw : WellFormedIn entries)
    (n : String) (e : Entry) : child? entries n = some e ↔ (n, e) ∈ entries := by
  induction entries with
  | nil => simp [child?]
  | cons p rest ih =>
    obtain ⟨name, e'⟩ := p
    obtain ⟨_, hne, _, hrest⟩ := hw
    rw [child?_cons, List.mem_cons]
    -- names are unique, so that the first entry of a name is the only one
    by_cases hn : n = name
    · subst hn
      have habsent : (n, e) ∉ rest := fun h => hne (n, e) h rfl
      simp [habsent, eq_comm]
    · simp [hn, ih hrest]

/-- The order of entries makes no difference to their being well-formed. -/
private theorem wellFormedIn_perm {l l' : List (String × Entry)} (hw : WellFormedIn l)
    (hp : l.Perm l') :
    WellFormedIn l' := by
  rw [wellFormedIn_iff] at hw ⊢
  exact ⟨fun p h => hw.1 p (hp.mem_iff.2 h), (hp.map Prod.fst).nodup_iff.1 hw.2⟩

/-- The order of entries makes no difference to what has a name. -/
private theorem child?_perm {l l' : List (String × Entry)} (hw : WellFormedIn l) (hp : l.Perm l')
    (n : String) : child? l' n = child? l n := by
  -- in both, a name stands for its one entry, wherever that is listed
  apply Option.ext
  intro e
  rw [child?_eq_some_iff (wellFormedIn_perm hw hp), child?_eq_some_iff hw, hp.mem_iff]

/-- Reordering what is in directories keeps their names. -/
private theorem names_reorderedIn {l l' : List (String × Entry)} (h : ReorderedIn l l') :
    l'.map Prod.fst = l.map Prod.fst := by
  induction l generalizing l' with
  | nil => rw [show l' = [] from h]
  | cons p rest ih =>
    obtain ⟨e', rest', rfl, _, hrest⟩ := h
    simp [ih hrest]

mutual

/-- Another order leaves a well-formed entry well-formed. -/
theorem wellFormed_reordered : ∀ (e : Entry) {e' : Entry}, e.WellFormed → e.Reordered e' →
    e'.WellFormed
  | .file _, _, _, h => by rw [h]; trivial
  | .link _, _, _, h => by rw [h]; trivial
  | .dir entries, _, hw, ⟨_, _, hsame, hperm, h⟩ => by
    rw [h]
    exact wellFormedIn_perm (wellFormedIn_reordered entries hw hsame) hperm

/-- Reordering within the entries keeps them well-formed. -/
theorem wellFormedIn_reordered : ∀ (l : List (String × Entry)) {l' : List (String × Entry)},
    WellFormedIn l → ReorderedIn l l' → WellFormedIn l'
  | [], _, _, h => by rw [h]; trivial
  | (name, e) :: rest, _, ⟨hname, hne, he, hrest⟩, ⟨e', rest', h, he', hrest'⟩ => by
    rw [h]
    refine ⟨hname, ?_, wellFormed_reordered e he he', wellFormedIn_reordered rest hrest hrest'⟩
    -- the names are the same, so they still differ
    intro p hp heq
    have hmem : p.1 ∈ rest.map Prod.fst :=
      names_reorderedIn hrest' ▸ List.mem_map_of_mem hp
    obtain ⟨q, hq, hqp⟩ := List.mem_map.1 hmem
    exact hne q hq (hqp.trans heq)

end

/-! ## The same at every path -/

/-- What has a name is reordered where the entries are. -/
private theorem child?_reorderedIn {l l' : List (String × Entry)} (h : ReorderedIn l l')
    (n : String) :
    Option.Rel Entry.Reordered (child? l n) (child? l' n) := by
  induction l generalizing l' with
  | nil => rw [show l' = [] from h]; exact .none
  | cons p rest ih =>
    obtain ⟨name, e⟩ := p
    obtain ⟨e', rest', rfl, he, hrest⟩ := h
    rw [child?_cons, child?_cons]
    -- the entry is the first one, whose counterpart comes first, too, or one of the rest
    split
    · exact .some he
    · exact ih hrest

/-- At every path below reordered entries stand reordered entries. -/
private theorem findIn?_reordered {l l' : List (String × Entry)} (hw : WellFormedIn l)
    (h : (Entry.dir l).Reordered (.dir l')) (p : Path) :
    Option.Rel Entry.Reordered (findIn? l p) (findIn? l' p) := by
  induction p generalizing l l' with
  | nil => exact .some h
  | cons n p ih =>
    -- the entry of that name is in the other directory too, wherever it stands there
    obtain ⟨same, entries', hsame, hperm, heq⟩ := h
    obtain rfl := Entry.dir.inj heq
    have hchild := child?_reorderedIn hsame n
    rw [← child?_perm (wellFormedIn_reordered l hw hsame) hperm] at hchild
    rw [findIn?, findIn?]
    generalize child? l' n = found' at hchild
    cases hc : child? l n with
    | none =>
      rw [hc] at hchild
      cases hchild
      exact .none
    | some e =>
      rw [hc] at hchild
      obtain ⟨_, he⟩ := wellFormed_of_child? hw hc
      cases hchild with
      | @some _ e' hre =>
        -- what is not a directory is the same, and found only where the path ends
        cases e with
        | file content =>
          rw [show e' = .file content from hre]
          by_cases hp : p.isEmpty
          · simp only [hp, if_true]; exact .some rfl
          · simp only [hp]; exact .none
        | link target =>
          rw [show e' = .link target from hre]
          by_cases hp : p.isEmpty
          · simp only [hp, if_true]; exact .some rfl
          · simp only [hp]; exact .none
        | dir inner =>
          obtain ⟨same', inner', hsame', hperm', rfl⟩ := hre
          exact ih he ⟨same', inner', hsame', hperm', rfl⟩

/-- At every path of a reordered tree stands what stood there, reordered. -/
theorem find?_reordered {t t' : FileTree} (hw : t.WellFormed) (h : t.Reordered t') (p : Path) :
    Option.Rel Entry.Reordered (t.find? p) (t'.find? p) :=
  findIn?_reordered hw h p

/-- What the two trees have at a path, seen from the second one. -/
theorem find?_eq_of_reordered {t t' : FileTree} (hw : t.WellFormed) (h : t.Reordered t') {p : Path}
    {e : Entry} (hp : t.find? p = some e) : ∃ e', t'.find? p = some e' ∧ e.Reordered e' := by
  have hrel := find?_reordered hw h p
  rw [hp] at hrel
  generalize t'.find? p = found' at hrel
  cases hrel with
  | some he => exact ⟨_, rfl, he⟩

/-- Where nothing stands, nothing stands after reordering. -/
theorem find?_eq_none_of_reordered {t t' : FileTree} (hw : t.WellFormed) (h : t.Reordered t')
    {p : Path} (hp : t.find? p = none) : t'.find? p = none := by
  have hrel := find?_reordered hw h p
  rw [hp] at hrel
  generalize t'.find? p = found' at hrel
  cases hrel
  rfl

/-- All but directories is the same in both trees. -/
theorem find?_iff_of_reordered {t t' : FileTree} (hw : t.WellFormed) (h : t.Reordered t') (p : Path)
    {e : Entry} (hdir : ∀ entries, e ≠ .dir entries) :
    t'.find? p = some e ↔ t.find? p = some e := by
  constructor
  · intro hp
    -- what stands in the reordered tree stood in the first one, or nothing did
    cases hf : t.find? p with
    | none => rw [find?_eq_none_of_reordered hw h hf] at hp; exact nomatch hp
    | some e₀ =>
      obtain ⟨e', he', hre⟩ := find?_eq_of_reordered hw h hf
      rw [hp] at he'
      obtain rfl := Option.some.inj he'
      rw [eq_of_reordered hre hdir]
  · intro hp
    obtain ⟨e', he', hre⟩ := find?_eq_of_reordered hw h hp
    cases e with
    | file content => rw [he', show e' = .file content from hre]
    | link target => rw [he', show e' = .link target from hre]
    | dir entries => exact absurd rfl (hdir entries)

/-- Reordering keeps directories. -/
theorem find?_dir_iff_of_reordered {t t' : FileTree} (hw : t.WellFormed) (h : t.Reordered t')
    (p : Path) :
    (∃ entries, t'.find? p = some (.dir entries)) ↔ ∃ entries, t.find? p = some (.dir entries) := by
  constructor
  · rintro ⟨entries, hp⟩
    cases hf : t.find? p with
    | none => rw [find?_eq_none_of_reordered hw h hf] at hp; exact nomatch hp
    | some e =>
      cases e with
      | dir inner => exact ⟨inner, rfl⟩
      | _ =>
        -- a file or a link would be there in the other tree as well
        rw [(find?_iff_of_reordered hw h p (fun _ => Entry.noConfusion)).2 hf] at hp
        exact nomatch hp
  · rintro ⟨entries, hp⟩
    obtain ⟨_, he', _, inner, _, _, rfl⟩ := find?_eq_of_reordered hw h hp
    exact ⟨inner, he'⟩

/-! ## Where paths lead -/

/-- Two outcomes of following a path: the same place, with the same there, or the same error. -/
inductive SameOutcome :
    Except IoError (Path × Entry) → Except IoError (Path × Entry) → Prop where
  | found {real : Path} {e e' : Entry} (h : e.Reordered e') :
      SameOutcome (.ok (real, e)) (.ok (real, e'))
  | refused (e : IoError) : SameOutcome (.error e) (.error e)

/-- A walk takes the same way through both trees. -/
private theorem locateFrom_reordered {t t' : FileTree} (hw : t.WellFormed) (h : t.Reordered t')
    (links : Nat) (here : Path) (rest : List String) :
    SameOutcome (t.locateFrom links here rest) (t'.locateFrom links here rest) := by
  fun_induction locateFrom t links here rest with
  | case1 links here e he =>
    obtain ⟨e', he', hre⟩ := find?_eq_of_reordered hw h he
    rw [locateFrom, he']
    exact .found hre
  | case2 links here he =>
    rw [locateFrom, find?_eq_none_of_reordered hw h he]
    exact .refused _
  | case3 links here rest inner he ih =>
    obtain ⟨inner', hinner'⟩ := (find?_dir_iff_of_reordered hw h here).2 ⟨inner, he⟩
    rw [locateFrom, hinner']
    simpa using ih
  | case4 links here name rest inner he hname hc =>
    -- there is no entry of that name in either
    obtain ⟨inner', hinner'⟩ := (find?_dir_iff_of_reordered hw h here).2 ⟨inner, he⟩
    rw [← find?_append_singleton he] at hc
    have hc' := find?_eq_none_of_reordered hw h hc
    rw [find?_append_singleton hinner'] at hc'
    rw [locateFrom, hinner']
    simpa [hname, hc'] using SameOutcome.refused _
  | case5 here name rest inner he hname target hc =>
    -- a link in both, with no links left to follow
    obtain ⟨inner', hinner'⟩ := (find?_dir_iff_of_reordered hw h here).2 ⟨inner, he⟩
    rw [← find?_append_singleton he, ← find?_iff_of_reordered hw h _ (fun _ => Entry.noConfusion),
      find?_append_singleton hinner'] at hc
    rw [locateFrom, hinner']
    simpa [hname, hc] using SameOutcome.refused _
  | case6 here name rest inner he hname target hc links start ih =>
    -- a link in both, with the same target
    obtain ⟨inner', hinner'⟩ := (find?_dir_iff_of_reordered hw h here).2 ⟨inner, he⟩
    rw [← find?_append_singleton he, ← find?_iff_of_reordered hw h _ (fun _ => Entry.noConfusion),
      find?_append_singleton hinner'] at hc
    rw [locateFrom, hinner']
    simpa [hname, hc, start] using ih
  | case7 links here name rest inner he hname e hne hc ih =>
    -- a file or a directory in both
    obtain ⟨inner', hinner'⟩ := (find?_dir_iff_of_reordered hw h here).2 ⟨inner, he⟩
    rw [← find?_append_singleton he] at hc
    obtain ⟨e', he', hre⟩ := find?_eq_of_reordered hw h hc
    rw [find?_append_singleton hinner'] at he'
    rw [locateFrom, hinner']
    cases e' with
    | link target =>
      exact absurd (eq_of_reordered hre (fun _ => Entry.noConfusion)) (hne target)
    | file content => simpa [hname, he'] using ih
    | dir _ => simpa [hname, he'] using ih
  | case8 links here name rest e hdir he =>
    -- the way leads through something that is no directory, in both
    obtain ⟨e', he', hre⟩ := find?_eq_of_reordered hw h he
    rw [locateFrom, he']
    cases e' with
    | dir entries =>
      obtain ⟨inner, hinner⟩ := (find?_dir_iff_of_reordered hw h here).1 ⟨entries, he'⟩
      exact absurd (Option.some.inj (he.symm.trans hinner)) (hdir inner)
    | file content => exact .refused _
    | link target => exact .refused _
  | case9 links here name rest he =>
    rw [locateFrom, find?_eq_none_of_reordered hw h he]
    exact .refused _

/-- A path leads to the same place after reordering, or fails in the same way. -/
theorem locate_reordered {t t' : FileTree} (hw : t.WellFormed) (h : t.Reordered t') (p : Path) :
    SameOutcome (t.locate p) (t'.locate p) :=
  locateFrom_reordered hw h linkLimit [] p

/-! ## Resolving -/

/-- The order of entries makes no difference to the number of links. -/
private theorem countLinksIn_perm {l l' : List (String × Entry)} (h : l.Perm l') :
    countLinksIn l = countLinksIn l' := by
  induction h with
  | nil => rfl
  | cons p _ ih => rw [countLinksIn, countLinksIn, ih]
  | swap p q l => simp only [countLinksIn]; omega
  | trans _ _ ih₁ ih₂ => exact ih₁.trans ih₂

mutual

/-- Reordering within an entry keeps the number of links. -/
private theorem countLinks_reordered : ∀ (e : Entry) {e' : Entry}, e.Reordered e' →
    countLinks e' = countLinks e
  | .file _, _, h => by rw [show _ = Entry.file _ from h]
  | .link _, _, h => by rw [show _ = Entry.link _ from h]
  | .dir entries, _, ⟨same, entries', hsame, hperm, h⟩ => by
    rw [h, countLinks, countLinks, ← countLinksIn_reordered entries hsame, countLinksIn_perm hperm]

/-- Reordering within entries keeps the number of links. -/
private theorem countLinksIn_reordered : ∀ (l : List (String × Entry)) {l' : List (String × Entry)},
    ReorderedIn l l' → countLinksIn l' = countLinksIn l
  | [], _, h => by rw [show _ = [] from h]
  | (_, e) :: rest, _, ⟨e', rest', h, he, hrest⟩ => by
    rw [h, countLinksIn, countLinksIn, countLinks_reordered e he, countLinksIn_reordered rest hrest]

end

/-- Resolving looks at nothing in a tree but its links. -/
private theorem resolveFrom_congr {t t' : FileTree}
    (h : ∀ p target, t'.find? p = some (.link target) ↔ t.find? p = some (.link target))
    (links : Nat) (seen : List (Path × Option Path)) (here : Path) (tasks : List Task) :
    t'.resolveFrom links seen here tasks = t.resolveFrom links seen here tasks := by
  fun_induction resolveFrom t links seen here tasks with
  | case1 => rw [resolveFrom]
  | case2 links seen here link rest ih => rw [resolveFrom, ih]
  | case3 links seen here rest ih => rw [resolveFrom, if_pos rfl, ih]
  | case4 links seen here n rest hn next target hlink found hseen ih =>
    have hlink' := (h next target).2 hlink
    rw [resolveFrom, if_neg hn]
    simpa only [next, hlink', hseen] using ih
  | case5 links seen here n rest hn next target hlink hseen =>
    have hlink' := (h next target).2 hlink
    rw [resolveFrom, if_neg hn]
    simp only [next, hlink', hseen]
  | case6 seen here n rest hn next target hlink hseen =>
    have hlink' := (h next target).2 hlink
    rw [resolveFrom, if_neg hn]
    simp only [next, hlink', hseen]
  | case7 seen here n rest hn next target hlink hseen links start ih =>
    have hlink' := (h next target).2 hlink
    rw [resolveFrom, if_neg hn]
    simpa only [next, start, hlink', hseen, dite_eq_ite] using ih
  | case8 links seen here n rest hn next hlink ih =>
    -- whatever is there, it is no link in either
    rw [resolveFrom, if_neg hn]
    cases hf : t'.find? (here ++ [n]) with
    | none => simpa only [next, hf] using ih
    | some e =>
      cases e with
      | link target => exact absurd ((h next target).1 hf) (hlink target)
      | file content => simpa only [next, hf] using ih
      | dir entries => simpa only [next, hf] using ih

/-- A text names the same path after reordering. -/
theorem resolve_reordered {t t' : FileTree} (hw : t.WellFormed) (h : t.Reordered t')
    (directory : Path) (path : String) : t'.resolve directory path = t.resolve directory path := by
  have hlinks : countLinksIn t'.entries = countLinksIn t.entries := by
    simpa [countLinks] using countLinks_reordered _ h
  have hfrom := resolveFrom_congr
    (fun p target => find?_iff_of_reordered hw h p (fun _ => Entry.noConfusion) (e := .link target))
  -- the same path is found, and it leads to the same place or to the same error
  unfold resolve
  simp only [hlinks, hfrom]
  split
  · rfl
  · generalize withoutDots _ = found
    have hloc := locate_reordered hw h found
    generalize t.locate found = outcome at hloc
    generalize t'.locate found = outcome' at hloc
    cases hloc <;> rfl

end FileTree

end SecretScan
