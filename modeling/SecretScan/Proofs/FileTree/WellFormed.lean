import SecretScan.FileTree

/-!
# Well-formed file trees

A snapshot of a real file system gives every name in a directory to one entry, and no entry the
names that a path uses for steps within it. `FileTree.WellFormed` says so of a tree.

Main statements: what is found below a directory is found from the root by the joined path
(`find?_append`); what a path leads to is found at its real path (`find?_of_locate`) and is no link
(`ne_link_of_locate`); and the real path of a file or a directory leads there (`locate_of_find?`).
-/

namespace SecretScan

/-- A name that an entry can have. -/
def IsName (n : String) : Prop :=
  n ≠ "" ∧ n ≠ "." ∧ n ≠ ".." ∧ '/' ∉ n.toList

mutual

/-- Are all directories at or below an entry well-formed? -/
def Entry.WellFormed : Entry → Prop
  | .file _ => True
  | .link _ => True
  | .dir entries => WellFormedIn entries

/-- Do the entries of a directory have proper names, no two of them the same? -/
def WellFormedIn : List (String × Entry) → Prop
  | [] => True
  | (name, e) :: rest =>
    IsName name ∧ (∀ p ∈ rest, p.1 ≠ name) ∧ e.WellFormed ∧ WellFormedIn rest

end

/-- Does the tree show a state that a file system can be in? -/
def FileTree.WellFormed (t : FileTree) : Prop :=
  WellFormedIn t.entries

namespace FileTree

/-! ## Entries of a directory -/

/-- What has a name is the first entry or one of the others. -/
theorem child?_cons (name n : String) (e : Entry) (rest : List (String × Entry)) :
    child? ((name, e) :: rest) n = if n = name then some e else child? rest n := by
  unfold child?
  rw [List.lookup_cons]
  by_cases h : n = name
  · simp [h]
  · simp [h, beq_false_of_ne h]

/-- The first entry is found by its name. -/
theorem child?_cons_self (name : String) (e : Entry) (rest : List (String × Entry)) :
    child? ((name, e) :: rest) name = some e := by
  rw [child?_cons, if_pos rfl]

/-- The entries of a well-formed directory are well-formed, and so are their names. -/
theorem wellFormed_of_child? {entries : List (String × Entry)} (hw : WellFormedIn entries)
    {n : String} {e : Entry} (h : child? entries n = some e) : IsName n ∧ e.WellFormed := by
  induction entries with
  | nil => simp [child?] at h
  | cons p rest ih =>
    obtain ⟨name, e'⟩ := p
    obtain ⟨hname, _, he', hrest⟩ := hw
    rw [child?_cons] at h
    -- the entry is the first one or one of the rest, and both are well-formed
    split at h
    · next hn =>
      obtain rfl := Option.some.inj h
      exact ⟨hn ▸ hname, he'⟩
    · exact ih hrest h

/-! ## What is found at a path -/

/-- Below a directory the search goes on in it. -/
private theorem findIn?_append {entries inner : List (String × Entry)} {p : Path}
    (h : findIn? entries p = some (.dir inner)) (q : Path) :
    findIn? entries (p ++ q) = findIn? inner q := by
  -- the induction is on the path, below whatever entries it starts from
  induction p generalizing entries with
  | nil =>
    obtain rfl : entries = inner := by simpa [findIn?] using h
    rfl
  | cons n p ih =>
    rw [List.cons_append, findIn?]
    rw [findIn?] at h
    split at h
    · exact ih h
    · -- no directory: nothing but the entry itself is found
      next e hne _ =>
      split at h
      · exact absurd (Option.some.inj h) (hne inner)
      · exact nomatch h
    · exact nomatch h

/-- What stands below a directory is looked up in its entries. -/
theorem find?_append {t : FileTree} {entries : List (String × Entry)} {p : Path}
    (h : t.find? p = some (.dir entries)) (q : Path) :
    t.find? (p ++ q) = findIn? entries q :=
  findIn?_append h q

/-- An entry of a directory is found at the path of the directory and its name. -/
theorem find?_append_singleton {t : FileTree} {entries : List (String × Entry)} {p : Path}
    (h : t.find? p = some (.dir entries)) (n : String) :
    t.find? (p ++ [n]) = child? entries n := by
  rw [find?_append h, findIn?]
  cases child? entries n with
  | none => rfl
  | some e => cases e <;> rfl

/-- Above anything there are directories. -/
theorem findIn?_dir_of_append {entries : List (String × Entry)} {p q : Path} {e : Entry}
    (h : findIn? entries (p ++ q) = some e) (hq : q ≠ []) :
    ∃ inner, findIn? entries p = some (.dir inner) := by
  induction p generalizing entries with
  | nil => exact ⟨entries, by rw [findIn?]⟩
  | cons n p ih =>
    rw [List.cons_append, findIn?] at h
    rw [findIn?]
    cases hc : child? entries n with
    | none => simp [hc] at h
    | some e' =>
      cases e' with
      | dir inner => exact ih (by simpa [hc] using h)
      -- files and links have nothing below them
      | file content => simp [hc, hq] at h
      | link target => simp [hc, hq] at h

/-- What stands anywhere but at the root stands in a directory. -/
theorem find?_parent {t : FileTree} {p : Path} {e : Entry} (h : t.find? p = some e)
    (hp : p ≠ []) : ∃ entries, t.find? p.parent = some (.dir entries) := by
  -- a path that is not empty is its parent and a last name
  rw [← List.dropLast_concat_getLast hp] at h
  exact findIn?_dir_of_append h (List.cons_ne_nil _ _)

/-- What is found in a well-formed tree is well-formed, at a path of proper names. -/
theorem wellFormed_of_findIn? {entries : List (String × Entry)} (hw : WellFormedIn entries)
    {p : Path} {e : Entry} (h : findIn? entries p = some e) :
    e.WellFormed ∧ ∀ n ∈ p, IsName n := by
  -- the induction is on the path, each name of which is one of well-formed entries
  induction p generalizing entries with
  | nil =>
    obtain rfl : Entry.dir entries = e := by simpa [findIn?] using h
    exact ⟨hw, by simp⟩
  | cons n p ih =>
    rw [findIn?] at h
    split at h
    · next inner hc =>
      obtain ⟨hn, hinner⟩ := wellFormed_of_child? hw hc
      obtain ⟨he, hp⟩ := ih hinner h
      exact ⟨he, List.forall_mem_cons.2 ⟨hn, hp⟩⟩
    · -- nothing stands below what is no directory, so the path ends here
      next e' _ hc =>
      obtain ⟨hn, he'⟩ := wellFormed_of_child? hw hc
      split at h
      · next hp =>
        obtain rfl := Option.some.inj h
        rw [List.isEmpty_iff.1 hp]
        exact ⟨he', by simpa using hn⟩
      · exact nomatch h
    · exact nomatch h

/-! ## Where paths lead -/

/-- The place that a walk ends at holds what the walk reports. -/
private theorem find?_of_locateFrom (t : FileTree) (links : Nat) (here : Path) (rest : List String)
    {real : Path} {e : Entry} (h : t.locateFrom links here rest = .ok (real, e)) :
    t.find? real = some e := by
  -- the walk looks its end up in the tree when no names are left
  fun_induction locateFrom t links here rest with
  | case1 links here e' he =>
    simp only [Except.ok.injEq, Prod.mk.injEq] at h
    obtain ⟨rfl, rfl⟩ := h
    exact he
  | case3 links here rest entries he ih => exact ih h
  | case6 here name rest entries he hname target hc links start ih => exact ih h
  | case7 links here name rest entries he hname e' hne hc ih => exact ih h
  | case2 | case4 | case5 | case8 | case9 => exact nomatch h

/-- What a path leads to stands where it is said to stand. -/
theorem find?_of_locate {t : FileTree} {p real : Path} {e : Entry}
    (h : t.locate p = .ok (real, e)) : t.find? real = some e :=
  find?_of_locateFrom t linkLimit [] p h

/-- A walk that does not start at a link does not end at one. -/
private theorem ne_link_of_locateFrom (t : FileTree) (links : Nat) (here : Path)
    (rest : List String)
    {real : Path} {e : Entry} (hhere : ∀ target, t.find? here ≠ some (.link target))
    (h : t.locateFrom links here rest = .ok (real, e)) (target : String) : e ≠ .link target := by
  fun_induction locateFrom t links here rest with
  | case1 links here e' he =>
    simp only [Except.ok.injEq, Prod.mk.injEq] at h
    obtain ⟨rfl, rfl⟩ := h
    rintro rfl
    exact hhere target he
  | case3 links here rest entries he ih =>
    -- one step up there is a directory
    refine ih (fun target' => ?_) h
    by_cases hnil : here = []
    · subst hnil
      exact hhere target'
    · obtain ⟨inner, hinner⟩ := find?_parent he hnil
      rw [hinner]
      exact nofun
  | case6 here name rest entries he hname target' hc links start ih =>
    -- the target of a link is followed from the root, or from where the link is
    refine ih (fun target'' => ?_) h
    by_cases habs : Path.isAbsolute target'
    · simp [start, habs, find?, findIn?]
    · simpa [start, habs] using hhere target''
  | case7 links here name rest entries he hname e' hne hc ih =>
    -- one step down there is an entry that is no link
    refine ih (fun target' => ?_) h
    rw [find?_append_singleton he, hc]
    rintro ⟨⟩
    exact hne target' rfl
  | case2 | case4 | case5 | case8 | case9 => exact nomatch h

/-- A path never leads to a link. -/
theorem ne_link_of_locate {t : FileTree} {p real : Path} {e : Entry}
    (h : t.locate p = .ok (real, e)) (target : String) : e ≠ .link target :=
  ne_link_of_locateFrom t linkLimit [] p (by simp [find?, findIn?]) h target

/-- A walk from a real directory down through real directories needs no links. -/
theorem locateFrom_of_findIn? {t : FileTree} (links : Nat) {here below : Path}
    {entries : List (String × Entry)} {e : Entry} (hhere : t.find? here = some (.dir entries))
    (hbelow : findIn? entries below = some e) (hnames : ∀ n ∈ below, n ≠ "..")
    (hlink : ∀ target, e ≠ .link target) :
    t.locateFrom links here below = .ok (here ++ below, e) := by
  induction below generalizing here entries with
  | nil =>
    obtain rfl : Entry.dir entries = e := by simpa [findIn?] using hbelow
    rw [locateFrom, hhere, List.append_nil]
  | cons n below ih =>
    -- the walk takes the step that the search takes
    obtain ⟨hn, hnames⟩ := List.forall_mem_cons.1 hnames
    rw [locateFrom, hhere]
    simp only [if_neg hn]
    have hat := find?_append_singleton hhere n
    rw [findIn?] at hbelow
    split at hbelow
    · next inner hc =>
      rw [hc] at hat
      simpa [hc] using ih hat hbelow hnames
    · next e' _ hc =>
      split at hbelow
      · next hnil =>
        obtain rfl := List.isEmpty_iff.1 hnil
        obtain rfl := Option.some.inj hbelow
        rw [hc] at hat
        cases e' with
        | link target => exact absurd rfl (hlink target)
        | file content => simp [hc, locateFrom, hat]
        | dir inner => simp [hc, locateFrom, hat]
      · cases hbelow
    · cases hbelow

/-- In a well-formed tree the path of a file or a directory leads there. -/
theorem locate_of_find? {t : FileTree} (hw : t.WellFormed) {p : Path} {e : Entry}
    (h : t.find? p = some e) (hlink : ∀ target, e ≠ .link target) : t.locate p = .ok (p, e) := by
  have hnames : ∀ n ∈ p, n ≠ ".." := fun n hn =>
    ((wellFormed_of_findIn? hw h).2 n hn).2.2.1
  have hroot : t.find? [] = some (.dir t.entries) := by simp [find?, findIn?]
  exact locateFrom_of_findIn? linkLimit hroot h hnames hlink

end FileTree

end SecretScan
