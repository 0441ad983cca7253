import Mathlib
import SecretScan.Proofs.FileTree.WellFormed

/-!
# Writing files

A file that was written is read back under the name that it was written to, also where that name is
a link to nothing; and writing one file leaves what the others hold.

Links make this more than a fact about a map from paths to files: the walk along a path passes
through the tree that has changed. Writing puts a file in the place of a file or of nothing, so that
walks go on as they did (`locateFrom_put`), and the walk that ended at nothing now ends at the file.

## Key results

- `kindAt_put`: what the tree has at each path when a file was put
- `write_eq_ok`: where a file is written, and that its name leads there
- `read_of_write_write`: two files that were written are both read back
-/

namespace SecretScan

/-- An entry, but for what a directory holds. -/
inductive Entry.Kind where
  | file (content : ByteArray)
  | link (target : String)
  | dir

/-- What an entry is. -/
def Entry.kind : Entry → Entry.Kind
  | .file content => .file content
  | .link target => .link target
  | .dir _ => .dir

namespace FileTree

/-- What there is at a path below a directory, links not followed. -/
def kindIn (entries : List (String × Entry)) (p : Path) : Option Entry.Kind :=
  (findIn? entries p).map Entry.kind

/-- What there is at a path, links not followed. -/
def kindAt (t : FileTree) (p : Path) : Option Entry.Kind :=
  kindIn t.entries p

/-- At the empty path stands the directory itself. -/
private theorem kindIn_nil (entries : List (String × Entry)) : kindIn entries [] = some .dir := by
  simp [kindIn, findIn?, Entry.kind]

/-- A path goes on within a directory. -/
theorem kindIn_cons_of_dir {entries inner : List (String × Entry)} {name : String}
    (h : child? entries name = some (.dir inner)) (rest : Path) :
    kindIn entries (name :: rest) = kindIn inner rest := by
  simp [kindIn, findIn?, h]

/-- No path goes on where nothing stands. -/
private theorem kindIn_cons_of_none {entries : List (String × Entry)} {name : String}
    (h : child? entries name = none) (rest : Path) : kindIn entries (name :: rest) = none := by
  simp [kindIn, findIn?, h]

/-- What stands under a name among entries. -/
private theorem kindIn_singleton (entries : List (String × Entry)) (name : String) :
    kindIn entries [name] = (child? entries name).map Entry.kind := by
  cases h : child? entries name with
  | none => simp [kindIn, findIn?, h]
  | some e => cases e <;> simp [kindIn, findIn?, h, Entry.kind]

/-- What stands at a path depends only on what its first name leads to. -/
private theorem kindIn_cons_congr {entries entries' : List (String × Entry)} {name : String}
    (h : child? entries name = child? entries' name) (rest : Path) :
    kindIn entries (name :: rest) = kindIn entries' (name :: rest) := by
  simp [kindIn, findIn?, h]

/-- Below a file there is nothing. -/
private theorem kindIn_cons_of_file {entries : List (String × Entry)} {name : String}
    {content : ByteArray} (h : child? entries name = some (.file content)) (next : String)
    (rest : Path) : kindIn entries (name :: next :: rest) = none := by
  simp [kindIn, findIn?, h]

/-- Putting an entry changes no other one. -/
private theorem child?_putEntry_of_ne {name n : String} (h : n ≠ name) (e : Entry)
    (entries : List (String × Entry)) : child? (putEntry name e entries) n = child? entries n := by
  induction entries with
  | nil => simp [putEntry, child?_cons, h]
  | cons p rest ih =>
    obtain ⟨m, old⟩ := p
    unfold putEntry
    -- the entry that is replaced has the name, and so not the other one
    split
    · next hm => rw [child?_cons, child?_cons, hm, if_neg h, if_neg h]
    · rw [child?_cons, child?_cons, ih]

/-! ## Putting a file -/

/-- Can a file be put at a path below a directory? There must be a directory for it, and in that
directory a file of the name or nothing. -/
structure WritableIn (entries : List (String × Entry)) (p : Path) : Prop where
  ne_nil : p ≠ []
  parent_dir : kindIn entries p.parent = some .dir
  free : kindIn entries p = none ∨ ∃ content, kindIn entries p = some (.file content)

/-- Can a file be put at a path? -/
abbrev Writable (t : FileTree) (p : Path) : Prop :=
  WritableIn t.entries p

/-- Putting a file changes what stands at its own path, and nothing else. -/
private theorem kindIn_putIn {entries : List (String × Entry)} {p : Path}
    (hp : WritableIn entries p)
    (content : ByteArray) (r : Path) :
    kindIn (putIn (.file content) entries p) r =
      if r = p then some (.file content) else kindIn entries r := by
  induction p generalizing entries r with
  | nil => exact absurd rfl hp.ne_nil
  | cons name rest ih =>
    cases r with
    | nil => simp [kindIn_nil]
    | cons n r =>
      cases rest with
      | nil =>
        rw [putIn]
        by_cases hn : n = name
        · subst hn
          have hput := child?_putEntry n (.file content) entries
          cases r with
          | nil => simp [kindIn_singleton, hput, Entry.kind]
          | cons m r =>
            -- neither below the new file nor below what it replaces there is anything
            rw [kindIn_cons_of_file hput, if_neg (by simp)]
            cases hc : child? entries n with
            | none => rw [kindIn_cons_of_none hc]
            | some e =>
              have hfree := hp.free
              rw [kindIn_singleton, hc] at hfree
              cases e with
              | file old => rw [kindIn_cons_of_file hc]
              | link target => simp [Entry.kind] at hfree
              | dir inner => simp [Entry.kind] at hfree
        · have hne : ¬ n :: r = [name] := by
            intro h
            exact hn (List.cons.inj h).1
          rw [if_neg hne]
          exact kindIn_cons_congr (child?_putEntry_of_ne hn _ entries) r
      | cons next rest =>
        -- the directory above the file is below a directory of the first name
        have hparent := hp.parent_dir
        have hinner : ∃ inner, child? entries name = some (.dir inner) := by
          cases hc : child? entries name with
          | none => simp [Path.parent, kindIn_cons_of_none hc] at hparent
          | some e =>
            cases e with
            | dir inner => exact ⟨inner, rfl⟩
            | file old =>
              cases rest <;> simp [Path.parent, kindIn, findIn?, hc, Entry.kind] at hparent
            | link target =>
              cases rest <;> simp [Path.parent, kindIn, findIn?, hc, Entry.kind] at hparent
        obtain ⟨inner, hc⟩ := hinner
        have hbelow : WritableIn inner (next :: rest) := by
          refine ⟨List.cons_ne_nil _ _, ?_, ?_⟩
          · simpa [Path.parent, kindIn_cons_of_dir hc] using hparent
          · simpa [kindIn_cons_of_dir hc] using hp.free
        simp only [putIn, hc]
        by_cases hn : n = name
        · subst hn
          rw [kindIn_cons_of_dir (child?_putEntry n _ entries), ih hbelow,
            kindIn_cons_of_dir hc]
          simp
        · have hne : ¬ n :: r = name :: next :: rest := by
            intro h
            exact hn (List.cons.inj h).1
          rw [if_neg hne]
          exact kindIn_cons_congr (child?_putEntry_of_ne hn _ entries) r

/-- What there is at a path when a file was put. -/
theorem kindAt_put {t : FileTree} {p : Path} (hp : t.Writable p) (content : ByteArray) (r : Path) :
    (t.put p (.file content)).kindAt r = if r = p then some (.file content) else t.kindAt r :=
  kindIn_putIn hp content r

/-! ## Walks -/

/-- What has a kind is an entry of it. -/
theorem exists_find?_of_kindAt {t : FileTree} {p : Path} {k : Entry.Kind}
    (h : t.kindAt p = some k) : ∃ e, t.find? p = some e ∧ e.kind = k :=
  Option.map_eq_some_iff.1 h

/-- What has the kind of directories is one. -/
private theorem find?_of_kindAt_dir {t : FileTree} {p : Path} (h : t.kindAt p = some .dir) :
    ∃ entries, t.find? p = some (.dir entries) := by
  obtain ⟨e, he, hkind⟩ := exists_find?_of_kindAt h
  cases e with
  | dir entries => exact ⟨entries, he⟩
  | _ => exact nomatch hkind

/-- An entry has its kind. -/
theorem kindAt_of_find? {t : FileTree} {p : Path} {e : Entry} (h : t.find? p = some e) :
    t.kindAt p = some e.kind := by
  unfold kindAt kindIn
  unfold find? at h
  rw [h]
  rfl

/-- What stands under a name in a directory. -/
theorem kindAt_append_singleton {t : FileTree} {entries : List (String × Entry)} {p : Path}
    (h : t.find? p = some (.dir entries)) (n : String) :
    t.kindAt (p ++ [n]) = (child? entries n).map Entry.kind := by
  rw [← find?_append_singleton h]
  rfl

/-- An entry of a directory has its kind. -/
theorem kindAt_of_child? {t : FileTree} {entries : List (String × Entry)} {p : Path} {n : String}
    {e : Entry} (h : t.find? p = some (.dir entries)) (hc : child? entries n = some e) :
    t.kindAt (p ++ [n]) = some e.kind := by
  rw [kindAt_append_singleton h, hc]
  rfl

/-- A walk takes its next step by what there is at the next path. -/
theorem locateFrom_cons {t : FileTree} {here : Path} (h : t.kindAt here = some .dir)
    (links : Nat) (name : String) (rest : List String) :
    t.locateFrom links here (name :: rest) =
      if name = ".." then t.locateFrom links here.parent rest
      else
        match t.kindAt (here ++ [name]) with
        | none => .error (.ofMissing name)
        | some (.link target) =>
          match links with
          | 0 => .error .tooManyLinks
          | links + 1 =>
            t.locateFrom links (if Path.isAbsolute target then [] else here)
              (Path.names target ++ rest)
        | some _ => t.locateFrom links (here ++ [name]) rest := by
  -- the directory where the walk is has the entry that `kindAt` tells of
  obtain ⟨entries, hentries⟩ := find?_of_kindAt_dir h
  rw [locateFrom, hentries, kindAt_append_singleton hentries]
  simp only
  split
  · rfl
  · cases hc : child? entries name with
    | none => rfl
    | some e => cases e <;> cases links <;> rfl

section Step

variable {t : FileTree} {here : Path} (h : t.kindAt here = some .dir)
include h

/-- Two dots lead to the directory above. -/
theorem locateFrom_up (links : Nat) (rest : List String) :
    t.locateFrom links here (".." :: rest) = t.locateFrom links here.parent rest := by
  rw [locateFrom_cons h, if_pos rfl]

variable {name : String} (hname : name ≠ "..")
include hname

/-- A link is followed, from the root if its target is absolute. -/
theorem locateFrom_link {target : String} (hat : t.kindAt (here ++ [name]) = some (.link target))
    (links : Nat) (rest : List String) :
    t.locateFrom (links + 1) here (name :: rest) =
      t.locateFrom links (if Path.isAbsolute target then [] else here)
        (Path.names target ++ rest) := by
  rw [locateFrom_cons h, if_neg hname, hat]

/-- What is no link is gone into. -/
theorem locateFrom_entry {k : Entry.Kind} (hat : t.kindAt (here ++ [name]) = some k)
    (hk : ∀ target, k ≠ .link target) (links : Nat) (rest : List String) :
    t.locateFrom links here (name :: rest) = t.locateFrom links (here ++ [name]) rest := by
  rw [locateFrom_cons h, if_neg hname, hat]
  cases k with
  | link target => exact absurd rfl (hk target)
  | file content => rfl
  | dir => rfl

end Step

/-- Directories are not files. -/
theorem dir_ne_file (content : ByteArray) : Entry.Kind.dir ≠ .file content :=
  nofun

/-- Links are not files. -/
theorem link_ne_file (target : String) (content : ByteArray) :
    Entry.Kind.link target ≠ .file content :=
  nofun

/-- What is no link has not the kind of one. -/
theorem kind_ne_link {e : Entry} (h : ∀ target, e ≠ .link target) (target : String) :
    e.kind ≠ .link target := by
  cases e with
  | link target => exact absurd rfl (h target)
  | _ => exact nofun

/-- Where a file is put there was no directory and no link. -/
theorem kindAt_put_of_kindAt {t : FileTree} {p r : Path} {k : Entry.Kind} (hp : t.Writable p)
    (hr : t.kindAt r = some k) (hfile : ∀ old, k ≠ .file old) (content : ByteArray) :
    (t.put p (.file content)).kindAt r = some k := by
  rw [kindAt_put hp, if_neg, hr]
  rintro rfl
  obtain hfree | ⟨old, hfree⟩ := hp.free
  · exact nomatch hr.symm.trans hfree
  · exact hfile old (Option.some.inj (hr.symm.trans hfree))

/-- Where there was an entry that is no link there is none either when a file was put. -/
private theorem exists_kindAt_put {t : FileTree} {p r : Path} {k : Entry.Kind} (hp : t.Writable p)
    (hr : t.kindAt r = some k) (hk : ∀ target, k ≠ .link target) (content : ByteArray) :
    ∃ k', (t.put p (.file content)).kindAt r = some k' ∧ ∀ target, k' ≠ .link target := by
  rw [kindAt_put hp, hr]
  split
  · exact ⟨_, rfl, nofun⟩
  · exact ⟨k, rfl, hk⟩

/-- A walk that ends somewhere ends there when a file was put. -/
theorem locateFrom_put {t : FileTree} {p : Path} (hp : t.Writable p) (content : ByteArray)
    (links : Nat) (here : Path) (rest : List String) {real : Path} {e : Entry}
    (h : t.locateFrom links here rest = .ok (real, e)) :
    ∃ e', (t.put p (.file content)).locateFrom links here rest = .ok (real, e') ∧
      e'.kind = if real = p then .file content else e.kind := by
  fun_induction locateFrom t links here rest with
  | case1 links here e' he =>
    simp only [Except.ok.injEq, Prod.mk.injEq] at h
    obtain ⟨rfl, rfl⟩ := h
    have hkind : (t.put p (.file content)).kindAt here =
        some (if here = p then .file content else e'.kind) := by
      rw [kindAt_put hp]
      split
      · rfl
      · exact kindAt_of_find? he
    obtain ⟨e'', he'', hkind⟩ := exists_find?_of_kindAt hkind
    exact ⟨e'', by rw [locateFrom, he''], hkind⟩
  | case3 links here rest entries he ih =>
    have hdir := kindAt_put_of_kindAt hp (kindAt_of_find? he) dir_ne_file content
    rw [locateFrom_up hdir]
    exact ih h
  | case6 here name rest entries he hname target hc links start ih =>
    have hdir := kindAt_put_of_kindAt hp (kindAt_of_find? he) dir_ne_file content
    have hlink := kindAt_put_of_kindAt hp (kindAt_of_child? he hc) (link_ne_file target) content
    rw [locateFrom_link hdir hname hlink]
    exact ih h
  | case7 links here name rest entries he hname e' hne hc ih =>
    -- the step is one to an entry that is no link, or to the file that was put
    have hdir := kindAt_put_of_kindAt hp (kindAt_of_find? he) dir_ne_file content
    obtain ⟨k, hk, hnolink⟩ :=
      exists_kindAt_put hp (kindAt_of_child? he hc) (kind_ne_link hne) content
    rw [locateFrom_entry hdir hname hk hnolink]
    exact ih h
  | case2 | case4 | case5 | case8 | case9 => cases h

/-- A name that is not there is no matter of links. -/
private theorem ofMissing_ne_tooManyLinks (name : String) :
    IoError.ofMissing name ≠ .tooManyLinks := by
  unfold IoError.ofMissing
  split <;> exact nofun

/-- A walk that ends at nothing does not run into too many links when a file was put. -/
private theorem locateFrom_put_ne_tooManyLinks {t : FileTree} {p : Path} (hp : t.Writable p)
    (content : ByteArray) (links : Nat) (here : Path) (rest : List String)
    (h : t.locateFrom links here rest = .error .notFound) :
    (t.put p (.file content)).locateFrom links here rest ≠ .error .tooManyLinks := by
  fun_induction locateFrom t links here rest with
  | case2 links here he =>
    rw [locateFrom]
    cases (t.put p (.file content)).find? here with
    | none => rintro ⟨⟩
    | some e => rintro ⟨⟩
  | case3 links here rest entries he ih =>
    have hdir := kindAt_put_of_kindAt hp (kindAt_of_find? he) dir_ne_file content
    rw [locateFrom_up hdir]
    exact ih h
  | case4 links here name rest entries he hname hc =>
    -- here the walk ends, but it may go on to the file that was put, and ends there
    have hdir := kindAt_put_of_kindAt hp (kindAt_of_find? he) dir_ne_file content
    have hat : t.kindAt (here ++ [name]) = none := by
      rw [kindAt_append_singleton he, hc]
      rfl
    rw [locateFrom_cons hdir, if_neg hname, kindAt_put hp, hat]
    by_cases heq : here ++ [name] = p
    · have hfile : (t.put p (.file content)).kindAt (here ++ [name]) = some (.file content) := by
        rw [kindAt_put hp, if_pos heq]
      obtain ⟨e', he', hkind⟩ := exists_find?_of_kindAt hfile
      rw [if_pos heq]
      cases e' with
      | file old =>
        cases rest with
        | nil => simp [locateFrom, he']
        | cons next rest => simp [locateFrom, he']
      | _ => cases hkind
    · rw [if_neg heq]
      exact fun h => ofMissing_ne_tooManyLinks name (Except.error.inj h)
  | case6 here name rest entries he hname target hc links start ih =>
    have hdir := kindAt_put_of_kindAt hp (kindAt_of_find? he) dir_ne_file content
    have hlink := kindAt_put_of_kindAt hp (kindAt_of_child? he hc) (link_ne_file target) content
    rw [locateFrom_link hdir hname hlink]
    exact ih h
  | case7 links here name rest entries he hname e' hne hc ih =>
    have hdir := kindAt_put_of_kindAt hp (kindAt_of_find? he) dir_ne_file content
    obtain ⟨k, hk, hnolink⟩ :=
      exists_kindAt_put hp (kindAt_of_child? he hc) (kind_ne_link hne) content
    rw [locateFrom_entry hdir hname hk hnolink]
    exact ih h
  | case9 links here name rest he =>
    rw [locateFrom]
    cases hfind : (t.put p (.file content)).find? here with
    | none => rintro ⟨⟩
    | some e' =>
      cases e' with
      | dir entries =>
        -- no directory is there that was not there before
        have hkind := kindAt_of_find? hfind
        rw [kindAt_put hp] at hkind
        split at hkind
        · cases hkind
        · rw [kindAt, kindIn] at hkind
          unfold find? at he
          rw [he] at hkind
          cases hkind
      | _ => rintro ⟨⟩
  | case1 | case5 | case8 => cases h

/-- A walk goes on from where its first part ends. -/
private theorem exists_locateFrom_append {t : FileTree} (links : Nat) (here : Path)
    (rest : List String)
    {real : Path} {e : Entry} (h : t.locateFrom links here rest = .ok (real, e)) :
    ∃ left ≤ links, ∀ more,
      t.locateFrom links here (rest ++ more) = t.locateFrom left real more := by
  -- each case is a step of the walk; a step over a link leaves one link fewer for what is added
  fun_induction locateFrom t links here rest with
  | case1 links here e' he =>
    simp only [Except.ok.injEq, Prod.mk.injEq] at h
    obtain ⟨rfl, rfl⟩ := h
    exact ⟨links, le_rfl, fun more => rfl⟩
  | case3 links here rest entries he ih =>
    obtain ⟨left, hleft, hwalk⟩ := ih h
    refine ⟨left, hleft, fun more => ?_⟩
    rw [List.cons_append, locateFrom_up (kindAt_of_find? he)]
    exact hwalk more
  | case6 here name rest entries he hname target hc links start ih =>
    obtain ⟨left, hleft, hwalk⟩ := ih h
    refine ⟨left, Nat.le_succ_of_le hleft, fun more => ?_⟩
    have hwalk := hwalk more
    rw [List.append_assoc] at hwalk
    rw [List.cons_append, locateFrom_link (kindAt_of_find? he) hname (kindAt_of_child? he hc)]
    exact hwalk
  | case7 links here name rest entries he hname e' hne hc ih =>
    obtain ⟨left, hleft, hwalk⟩ := ih h
    refine ⟨left, hleft, fun more => ?_⟩
    rw [List.cons_append, locateFrom_entry (kindAt_of_find? he) hname (kindAt_of_child? he hc)
      (kind_ne_link hne)]
    exact hwalk more
  | case2 | case4 | case5 | case8 | case9 => cases h

/-- With fewer links a walk ends as it does with more, unless they are too many. -/
private theorem locateFrom_of_le {t : FileTree} (links : Nat) (here : Path) (rest : List String) :
    ∀ more, links ≤ more → t.locateFrom links here rest = .error .tooManyLinks ∨
      t.locateFrom links here rest = t.locateFrom more here rest := by
  -- each case is a step of the walk; more links make a difference only when there are none left
  fun_induction locateFrom t links here rest with
  | case1 links here e he =>
    intro more hmore
    exact .inr (by rw [locateFrom, he])
  | case2 links here he =>
    intro more hmore
    exact .inr (by rw [locateFrom, he])
  | case3 links here rest entries he ih =>
    intro more hmore
    rw [locateFrom_up (kindAt_of_find? he) more]
    exact ih more hmore
  | case4 links here name rest entries he hname hc =>
    intro more hmore
    rw [locateFrom_cons (kindAt_of_find? he) more, if_neg hname, kindAt_append_singleton he, hc]
    exact .inr rfl
  | case5 => exact fun _ _ => .inl rfl
  | case6 here name rest entries he hname target hc links start ih =>
    intro more hmore
    obtain ⟨more, rfl⟩ := Nat.exists_eq_add_of_le' hmore
    rw [Nat.add_succ, locateFrom_link (kindAt_of_find? he) hname (kindAt_of_child? he hc)]
    exact ih _ (Nat.le_add_left links more)
  | case7 links here name rest entries he hname e' hne hc ih =>
    intro more hmore
    rw [locateFrom_entry (kindAt_of_find? he) hname (kindAt_of_child? he hc) (kind_ne_link hne)
      more]
    exact ih more hmore
  | case8 links here name rest e hne he =>
    intro more hmore
    refine .inr ?_
    rw [locateFrom, he]
    cases e with
    | dir entries => exact absurd rfl (hne entries)
    | _ => rfl
  | case9 links here name rest he =>
    intro more hmore
    refine .inr ?_
    rw [locateFrom, he]

/-- The names of a path that was walked to are no double dots. -/
private theorem ne_dots_of_locateFrom {t : FileTree} (links : Nat) (here : Path)
    (rest : List String)
    (hhere : ∀ n ∈ here, n ≠ "..") {real : Path} {e : Entry}
    (h : t.locateFrom links here rest = .ok (real, e)) : ∀ n ∈ real, n ≠ ".." := by
  -- the case split is the walk's own: two dots go up, and no other step adds them
  fun_induction locateFrom t links here rest with
  | case1 links here e' he =>
    simp only [Except.ok.injEq, Prod.mk.injEq] at h
    obtain ⟨rfl, rfl⟩ := h
    exact hhere
  | case3 links here rest entries he ih =>
    exact ih (fun n hn => hhere n (List.mem_of_mem_dropLast hn)) h
  | case6 here name rest entries he hname target hc links start ih =>
    refine ih ?_ h
    intro n hn
    by_cases habs : Path.isAbsolute target
    · simp [start, habs] at hn
    · exact hhere n (by simpa [start, habs] using hn)
  | case7 links here name rest entries he hname e' hne hc ih =>
    refine ih ?_ h
    intro n hn
    obtain hn | hn := List.mem_append.1 hn
    · exact hhere n hn
    · rw [List.mem_singleton.1 hn]
      exact hname
  | case2 | case4 | case5 | case8 | case9 => cases h

/-- The last step of a path, when the rest of it leads to a directory. -/
theorem exists_locate_eq_step {t : FileTree} {p directory : Path} {e : Entry} (hp : p ≠ [])
    (h : t.locate p.parent = .ok (directory, e)) :
    ∃ left ≤ linkLimit, t.locate p = t.locateFrom left directory [p.fileName] := by
  -- the walk to the parent uses up some of the links; the last name is left
  obtain ⟨left, hleft, hwalk⟩ := exists_locateFrom_append linkLimit [] p.parent h
  refine ⟨left, hleft, ?_⟩
  have hsplit : p = p.parent ++ [p.fileName] := by
    rw [Path.parent, Path.fileName, List.getLast?_eq_some_getLast hp, Option.getD_some,
      List.dropLast_append_getLast hp]
  unfold locate
  rw [← hwalk [p.fileName], ← hsplit]

/-- The real path of a directory leads to it. -/
private theorem locate_real_of_locate {t : FileTree} {p directory : Path}
    {entries : List (String × Entry)}
    (h : t.locate p = .ok (directory, .dir entries)) :
    t.locate directory = .ok (directory, .dir entries) := by
  have hroot : t.find? [] = some (.dir t.entries) := by simp [find?, findIn?]
  have hnames := ne_dots_of_locateFrom linkLimit [] p (by simp) h
  refine locateFrom_of_findIn? linkLimit hroot (find?_of_locate h) hnames ?_
  rintro target ⟨⟩

/-- A path from a directory leads where the walk from that directory leads. -/
private theorem locateFrom_directory_of_locate {t : FileTree} {p directory below : Path}
    {entries : List (String × Entry)} (h : t.locate p = .ok (directory, .dir entries))
    {found : Path × Entry} (hfound : t.locate (directory ++ below) = .ok found) :
    t.locateFrom linkLimit directory below = .ok found := by
  obtain ⟨left, hleft, hwalk⟩ :=
    exists_locateFrom_append linkLimit [] directory (locate_real_of_locate h)
  have hbelow : t.locateFrom left directory below = .ok found := by
    rw [← hwalk below]
    exact hfound
  -- with all links to spare the walk ends in the same place
  obtain hmany | heq := locateFrom_of_le left directory below linkLimit hleft
  · exact nomatch hbelow.symm.trans hmany
  · rw [← heq]
    exact hbelow

/-- Directories are where they were when a file was put. -/
private theorem locate_put_of_dir {t : FileTree} {p r directory : Path}
    {entries : List (String × Entry)}
    (hp : t.Writable p) (h : t.locate r = .ok (directory, .dir entries)) (content : ByteArray) :
    ∃ entries', (t.put p (.file content)).locate r = .ok (directory, .dir entries') := by
  -- what a path leads to keeps its kind, unless it is where the file is put
  obtain ⟨e, he, hkind⟩ := locateFrom_put hp content linkLimit [] r h
  have hne : directory ≠ p := by
    rintro rfl
    have hdir := kindAt_of_find? (find?_of_locate h)
    obtain hfree | ⟨old, hfree⟩ := hp.free
    · exact nomatch hdir.symm.trans hfree
    · exact nomatch hdir.symm.trans hfree
  rw [if_neg hne] at hkind
  cases e with
  | dir entries' => exact ⟨entries', he⟩
  | _ => exact nomatch hkind

/-! ## Writing -/

/-- The root is there. -/
theorem ne_nil_of_locate_notFound {t : FileTree} {p : Path}
    (h : t.locate p = .error .notFound) : p ≠ [] := by
  rintro rfl
  simp [locate, locateFrom, find?, findIn?] at h

/-- The way up from a directory always leads to something. -/
theorem fileName_ne_dots {t : FileTree} {p directory : Path} {entries : List (String × Entry)}
    (h : t.locate p = .error .notFound)
    (hparent : t.locate p.parent = .ok (directory, .dir entries)) : p.fileName ≠ ".." := by
  intro hname
  obtain ⟨left, _, hstep⟩ := exists_locate_eq_step (ne_nil_of_locate_notFound h) hparent
  have hdir := find?_of_locate hparent
  -- if the name were two dots, the walk would end above the directory
  rw [hstep, locateFrom_cons (kindAt_of_find? hdir), if_pos hname, locateFrom] at h
  -- and there is a directory above every directory
  have habove : ∃ inner, t.find? directory.parent = some (.dir inner) := by
    by_cases hroot : directory = []
    · exact ⟨t.entries, by rw [hroot]; simp [Path.parent, find?, findIn?]⟩
    · exact find?_parent hdir hroot
  obtain ⟨inner, hinner⟩ := habove
  rw [hinner] at h
  cases h

/-- Over a file. -/
private theorem put_at_file {t : FileTree} {p real : Path} {old : ByteArray}
    (h : t.locate p = .ok (real, .file old)) (content : ByteArray) :
    t.Writable real ∧ (t.put real (.file content)).locate p = .ok (real, .file content) := by
  have hfind := find?_of_locate h
  -- the root is a directory, so a file has a directory that it stands in
  have hnil : real ≠ [] := by
    rintro rfl
    simp [find?, findIn?] at hfind
  have hw : t.Writable real := by
    obtain ⟨entries, hparent⟩ := find?_parent hfind hnil
    exact ⟨hnil, kindAt_of_find? hparent, .inr ⟨old, kindAt_of_find? hfind⟩⟩
  obtain ⟨e, he, hkind⟩ := locateFrom_put hw content linkLimit [] p h
  rw [if_pos rfl] at hkind
  cases e with
  | file new =>
    obtain rfl := Entry.Kind.file.inj hkind
    exact ⟨hw, he⟩
  | _ => cases hkind

/-- Under a name that is free. -/
private theorem put_at_free {t : FileTree} {p directory : Path} {entries : List (String × Entry)}
    (h : t.locate p = .error .notFound)
    (hparent : t.locate p.parent = .ok (directory, .dir entries))
    (hlink : ∀ target, child? entries p.fileName ≠ some (.link target)) (content : ByteArray) :
    t.Writable (directory ++ [p.fileName]) ∧
      (t.put (directory ++ [p.fileName]) (.file content)).locate p =
        .ok (directory ++ [p.fileName], .file content) := by
  have hp := ne_nil_of_locate_notFound h
  have hdir := find?_of_locate hparent
  have hname := fileName_ne_dots h hparent
  have hfree : t.kindAt (directory ++ [p.fileName]) = none := by
    rw [kindAt_append_singleton hdir]
    -- what is there would have been found
    obtain ⟨left, _, hstep⟩ := exists_locate_eq_step hp hparent
    rw [hstep, locateFrom_cons (kindAt_of_find? hdir), if_neg hname,
      kindAt_append_singleton hdir] at h
    have hat := find?_append_singleton hdir p.fileName
    cases hc : child? entries p.fileName with
    | none => rfl
    | some e =>
      rw [hc] at h hat
      cases e with
      | link target => exact absurd hc (hlink target)
      | file old => simp [Entry.kind, locateFrom, hat] at h
      | dir inner => simp [Entry.kind, locateFrom, hat] at h
  have hw : t.Writable (directory ++ [p.fileName]) := by
    refine ⟨by simp, ?_, .inl hfree⟩
    rw [Path.parent, List.dropLast_concat]
    exact kindAt_of_find? hdir
  obtain ⟨entries', hparent'⟩ := locate_put_of_dir hw hparent content
  obtain ⟨left, _, hstep⟩ := exists_locate_eq_step hp hparent'
  have hfile : (t.put (directory ++ [p.fileName]) (.file content)).kindAt
      (directory ++ [p.fileName]) = some (.file content) := by
    rw [kindAt_put hw, if_pos rfl]
  refine ⟨hw, ?_⟩
  rw [hstep, locateFrom_cons (kindAt_of_find? (find?_of_locate hparent')), if_neg hname, hfile]
  obtain ⟨e, he, hkind⟩ := exists_find?_of_kindAt hfile
  cases e with
  | file new =>
    obtain rfl := Entry.Kind.file.inj hkind
    simp [locateFrom, he]
  | _ => cases hkind

/-- Through a link to nothing: what the link leads to afterwards, its name leads to as well. -/
private theorem locate_put_of_link {t : FileTree} {p q directory : Path}
    {entries : List (String × Entry)}
    {target : String} {content : ByteArray} (h : t.locate p = .error .notFound)
    (hparent : t.locate p.parent = .ok (directory, .dir entries))
    (hlink : child? entries p.fileName = some (.link target)) (hq : t.Writable q)
    (htarget : (t.put q (.file content)).locate (Path.under directory target) =
      .ok (q, .file content)) :
    (t.put q (.file content)).locate p = .ok (q, .file content) := by
  obtain ⟨entries', hparent'⟩ := locate_put_of_dir hq hparent content
  obtain ⟨left, hleft, hstep⟩ := exists_locate_eq_step (ne_nil_of_locate_notFound h) hparent'
  have hfew := locateFrom_put_ne_tooManyLinks hq content linkLimit [] p h
  change (t.put q (.file content)).locate p ≠ _ at hfew
  have hat : (t.put q (.file content)).kindAt (directory ++ [p.fileName]) = some (.link target) :=
    kindAt_put_of_kindAt hq (kindAt_of_child? (find?_of_locate hparent) hlink)
      (link_ne_file target) content
  have hname := fileName_ne_dots h hparent
  rw [hstep, locateFrom_cons (kindAt_of_find? (find?_of_locate hparent')), if_neg hname, hat]
    at hfew ⊢
  cases left with
  | zero => exact absurd rfl hfew
  | succ left =>
    simp only [List.append_nil] at hfew ⊢
    -- the walk along the target needs no more links than there are
    obtain hmany | heq := locateFrom_of_le (t := t.put q (.file content)) left
      (if Path.isAbsolute target then [] else directory) (Path.names target) linkLimit
      (Nat.le_of_succ_le hleft)
    · exact absurd hmany hfew
    · rw [heq]
      by_cases habs : Path.isAbsolute target
      · simpa [Path.under, habs, locate] using htarget
      · simp only [Path.under, habs, Bool.false_eq_true, if_false] at htarget ⊢
        exact locateFrom_directory_of_locate hparent' htarget

/-- What writing can do: replace a file, put one under a name that is free, or go on with what a
link names. -/
private theorem writeFrom_cases {t t' : FileTree} {content : ByteArray} {links : Nat} {p : Path}
    (h : t.writeFrom content links p = .ok t') :
    (∃ real old, t.locate p = .ok (real, .file old) ∧ t' = t.put real (.file content)) ∨
    (∃ directory entries, t.locate p = .error .notFound ∧
      t.locate p.parent = .ok (directory, .dir entries) ∧
      (∀ target, child? entries p.fileName ≠ some (.link target)) ∧
      t' = t.put (directory ++ [p.fileName]) (.file content)) ∨
    ∃ directory entries target left, t.locate p = .error .notFound ∧
      t.locate p.parent = .ok (directory, .dir entries) ∧
      child? entries p.fileName = some (.link target) ∧ links = left + 1 ∧
      t.writeFrom content left (Path.under directory target) = .ok t' := by
  unfold writeFrom at h
  -- the cases are those of writing: a file to be written over, a free name, or a link to go on
  -- with
  cases hp : t.locate p with
  | ok found =>
    obtain ⟨real, e⟩ := found
    cases e with
    | file old =>
      simp only [hp, Except.ok.injEq] at h
      exact .inl ⟨real, old, rfl, h.symm⟩
    | _ => simp [hp] at h
  | error e =>
    cases e with
    | notFound =>
      cases hparent : t.locate p.parent with
      | error e => simp [hp, hparent] at h
      | ok found =>
        obtain ⟨directory, e⟩ := found
        cases e with
        | dir entries =>
          refine .inr ?_
          by_cases hlink : ∃ target, child? entries p.fileName = some (.link target)
          · obtain ⟨target, hlink⟩ := hlink
            cases links with
            | zero => simp [hp, hparent, hlink] at h
            | succ left =>
              simp only [hp, hparent, hlink] at h
              exact .inr ⟨directory, entries, target, left, rfl, rfl, hlink, rfl, h⟩
          · -- what is no link and was not found is a free name
            have hname := fileName_ne_dots hp hparent
            refine .inl ⟨directory, entries, rfl, rfl, fun target ht => hlink ⟨target, ht⟩, ?_⟩
            cases hc : child? entries p.fileName with
            | none => simpa [hp, hparent, hc, hname, eq_comm] using h
            | some e =>
              cases e with
              | link target => exact absurd ⟨target, hc⟩ hlink
              | _ => simpa [hp, hparent, hc, hname, eq_comm] using h
        | _ => simp [hp, hparent] at h
    | _ => simp [hp] at h

/-- Writing puts a file somewhere, and the name that was written to leads there. -/
private theorem writeFrom_eq_ok {t t' : FileTree} {content : ByteArray} (links : Nat) {p : Path}
    (h : t.writeFrom content links p = .ok t') :
    ∃ q, t.Writable q ∧ t' = t.put q (.file content) ∧ t'.locate p = .ok (q, .file content) := by
  -- along the links that writing follows
  induction links using Nat.strongRecOn generalizing p with
  | ind links ih =>
    obtain ⟨real, old, hfile, rfl⟩ | ⟨directory, entries, hnone, hparent, hlink, rfl⟩ |
      ⟨directory, entries, target, left, hnone, hparent, hlink, rfl, hmore⟩ := writeFrom_cases h
    · obtain ⟨hw, hlocate⟩ := put_at_file hfile content
      exact ⟨real, hw, rfl, hlocate⟩
    · obtain ⟨hw, hlocate⟩ := put_at_free hnone hparent hlink content
      exact ⟨directory ++ [p.fileName], hw, rfl, hlocate⟩
    · obtain ⟨q, hw, rfl, htarget⟩ := ih left (Nat.lt_succ_self left) hmore
      exact ⟨q, hw, rfl, locate_put_of_link hnone hparent hlink hw htarget⟩

/-- A write puts a file at a path where it may, and the path that was named leads there. -/
theorem write_eq_ok {t t' : FileTree} {p : Path} {content : ByteArray}
    (h : t.write p content = .ok t') :
    ∃ q, t.Writable q ∧ t' = t.put q (.file content) ∧ t'.locate p = .ok (q, .file content) :=
  writeFrom_eq_ok linkLimit h

/-- A file that a path leads to can be read. -/
theorem read_of_locate {t : FileTree} {p real : Path} {content : ByteArray}
    (h : t.locate p = .ok (real, .file content)) : t.read p = .ok content := by
  unfold read
  rw [h]

/-- What was written is read. -/
theorem read_of_write {t t' : FileTree} {p : Path} {content : ByteArray}
    (h : t.write p content = .ok t') : t'.read p = .ok content := by
  obtain ⟨q, _, _, hlocate⟩ := write_eq_ok h
  exact read_of_locate hlocate

/-- Two files that were written one after the other are both read, if their names lead to different
files. -/
theorem read_of_write_write {t₀ t₁ t₂ : FileTree} {p₁ p₂ : Path} {content₁ content₂ : ByteArray}
    (h₁ : t₀.write p₁ content₁ = .ok t₁) (h₂ : t₁.write p₂ content₂ = .ok t₂)
    (hne : t₂.realPath p₁ ≠ t₂.realPath p₂) :
    t₂.read p₁ = .ok content₁ ∧ t₂.read p₂ = .ok content₂ := by
  obtain ⟨q₁, _, _, hlocate₁⟩ := write_eq_ok h₁
  obtain ⟨q₂, hw₂, hput, hlocate₂⟩ := write_eq_ok h₂
  -- the second file is put elsewhere, so the first is found as before
  obtain ⟨e, he, hkind⟩ := locateFrom_put hw₂ content₂ linkLimit [] p₁ hlocate₁
  rw [← hput] at he
  change t₂.locate p₁ = .ok (q₁, e) at he
  have hq : q₁ ≠ q₂ := by
    rintro rfl
    unfold realPath at hne
    rw [he, hlocate₂] at hne
    exact hne rfl
  rw [if_neg hq] at hkind
  cases e with
  | file content =>
    obtain rfl := Entry.Kind.file.inj hkind
    exact ⟨read_of_locate he, read_of_locate hlocate₂⟩
  | _ => exact nomatch hkind

end FileTree

end SecretScan
