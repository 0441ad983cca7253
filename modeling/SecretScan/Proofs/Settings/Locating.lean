import Mathlib
import SecretScan.Proofs.Except
import SecretScan.Settings

/-!
# Where settings are looked for

A settings file that is named is the only one that is looked for. Otherwise those in the directory
of the scan are, one after the other until one is there. What is said here holds for every `Host`,
also for one that does not tell what a path leads to.

## Key results

- `Host.exists_directoryOf`: what exists has a directory
- `locate_eq_some_iff`: the file that is found is the first that is sought and there
- `locate_eq_error_iff`: when looking for a settings file fails without a refusal
-/

namespace SecretScan

/-- What exists is known to be a directory or none, so that it has a directory. -/
theorem Host.exists_directoryOf {host : Host} {start : Path} (h : host.exists? start = .ok true) :
    ∃ directory, host.directoryOf start = .ok directory := by
  -- the kind of what is there settles both whether it exists and whether it is a directory
  unfold Host.exists? at h
  cases hkind : host.kindOf start with
  | ok kind =>
    have hdir : host.isDir start = .ok (kind == .directory) := by
      unfold Host.isDir
      rw [hkind]
    exact ⟨_, by rw [Host.directoryOf, hdir, ok_bind]; rfl⟩
  | error e =>
    rw [hkind] at h
    dsimp only at h
    split at h
    · exact nomatch Except.ok.inj h
    · exact nomatch h

namespace Settings

variable {host : Host} {cwd path : Path} {named : Option String} {root : String}

/-! ## The first of some places -/

section Places

variable {α : Type} {place : α → Path} {names : List α}

/-- Names that lead nowhere are passed over. -/
private theorem firstThere_append {before rest : List α}
    (h : ∀ n ∈ before, host.exists? (place n) = .ok false) :
    firstThere host ((before ++ rest).map place) = firstThere host (rest.map place) := by
  induction before with
  | nil => rfl
  | cons n before ih =>
    -- a name that leads nowhere is skipped
    obtain ⟨hn, hbefore⟩ := List.forall_mem_cons.1 h
    rw [List.cons_append, List.map_cons, firstThere, hn, ok_bind]
    exact ih hbefore

/-- Either all names lead nowhere, or there is a first one of which this is not known. -/
private theorem exists_first (host : Host) (place : α → Path) (names : List α) :
    (∀ n ∈ names, host.exists? (place n) = .ok false) ∨
      ∃ before name after, names = before ++ name :: after ∧
        (∀ n ∈ before, host.exists? (place n) = .ok false) ∧
        host.exists? (place name) ≠ .ok false := by
  induction names with
  | nil => exact .inl nofun
  | cons n names ih =>
    -- the first name leads nowhere, and the search goes on, or it ends there
    by_cases hn : host.exists? (place n) = .ok false
    · obtain hnames | ⟨before, name, after, rfl, hbefore, hname⟩ := ih
      · exact .inl (List.forall_mem_cons.2 ⟨hn, hnames⟩)
      · exact .inr ⟨n :: before, name, after, rfl, List.forall_mem_cons.2 ⟨hn, hbefore⟩, hname⟩
    · exact .inr ⟨[], n, names, rfl, nofun, hn⟩

/-- Nothing is found if all names lead nowhere. -/
private theorem firstThere_eq_none (h : ∀ n ∈ names, host.exists? (place n) = .ok false) :
    firstThere host (names.map place) = .ok none := by
  have happend : firstThere host ((names ++ []).map place) = firstThere host ([].map place) :=
    firstThere_append h
  rwa [List.append_nil] at happend

/-- What is found is the place of the first name that leads to something. -/
private theorem firstThere_eq_some_iff :
    firstThere host (names.map place) = .ok (some path) ↔
      ∃ before name after, names = before ++ name :: after ∧ path = place name ∧
        (∀ n ∈ before, host.exists? (place n) = .ok false) ∧ host.exists? path = .ok true := by
  constructor
  · intro h
    -- the names are gone through up to the first one that is not plainly missing
    obtain hnames | ⟨before, name, after, rfl, hbefore, hname⟩ := exists_first host place names
    · rw [firstThere_eq_none hnames] at h
      exact nomatch Except.ok.inj h
    · rw [firstThere_append hbefore, List.map_cons, firstThere] at h
      obtain ⟨found, hfound, h⟩ := bind_eq_ok h
      cases found with
      | false => exact absurd hfound hname
      | true =>
        obtain rfl := Option.some.inj (Except.ok.inj h)
        exact ⟨before, name, after, rfl, rfl, hbefore, hfound⟩
  · rintro ⟨before, name, after, rfl, rfl, hbefore, hname⟩
    rw [firstThere_append hbefore, List.map_cons, firstThere, hname, ok_bind]
    rfl

/-- The search fails at the first name of which it is not told whether it leads to something. -/
private theorem firstThere_eq_error_iff {e : IoError} :
    firstThere host (names.map place) = .error e ↔
      ∃ before name after, names = before ++ name :: after ∧
        (∀ n ∈ before, host.exists? (place n) = .ok false) ∧
        host.exists? (place name) = .error e := by
  constructor
  · intro h
    -- as before, up to the first name that is not plainly missing
    obtain hnames | ⟨before, name, after, rfl, hbefore, hname⟩ := exists_first host place names
    · rw [firstThere_eq_none hnames] at h
      exact nomatch h
    · rw [firstThere_append hbefore, List.map_cons, firstThere] at h
      obtain hname' | ⟨found, hfound, h⟩ := bind_eq_error_iff.1 h
      · exact ⟨before, name, after, rfl, hbefore, hname'⟩
      · cases found with
        | false => exact absurd hfound hname
        | true => exact nomatch h
  · rintro ⟨before, name, after, rfl, hbefore, hname⟩
    rw [firstThere_append hbefore, List.map_cons, firstThere, hname]
    rfl

end Places

/-! ## The settings file of a scan -/

/-- Is a path looked at for the settings of a scan? -/
inductive IsSought (host : Host) (cwd : Path) (named : Option String) (root : String) :
    Path → Prop where
  /-- It is the one that is named. -/
  | named {name : String} {path : Path} :
    given? named = some name → host.resolve cwd name = .ok path →
      IsSought host cwd named root path
  /-- None is named, and those before it in the directory of the scan are not there. -/
  | inDirectory {start directory : Path} {before after : List String} {name : String} :
    given? named = none → host.resolve cwd root = .ok start →
      host.directoryOf start = .ok directory → fileNames = before ++ name :: after →
      (∀ n ∈ before, host.exists? (directory ++ [n]) = .ok false) →
      IsSought host cwd named root (directory ++ [name])

/-- A file that is named is found if it is there. -/
private theorem locate_eq_some_iff_of_named {name : String} (hnamed : given? named = some name) :
    locate host cwd named root = .ok (some path) ↔
      IsSought host cwd named root path ∧ host.exists? path = .ok true := by
  unfold locate
  rw [hnamed]
  constructor
  · intro h
    obtain ⟨found, hfound, h⟩ := bind_eq_ok h
    obtain ⟨there, hthere, h⟩ := bind_eq_ok h
    cases there with
    | false => exact nomatch h
    | true =>
      obtain rfl := Option.some.inj (Except.ok.inj h)
      exact ⟨.named hnamed (mapError_eq_ok_iff.1 hfound), mapError_eq_ok_iff.1 hthere⟩
  · rintro ⟨hsought, hexists⟩
    cases hsought with
    | named hname hresolve =>
      obtain rfl := Option.some.inj (hnamed.symm.trans hname)
      dsimp only
      rw [hresolve, mapError_ok, ok_bind, hexists, mapError_ok, ok_bind]
      rfl
    | inDirectory hnone => exact nomatch hnamed.symm.trans hnone

/-- In the directory of the scan the first name that is there is found. -/
private theorem locate_eq_some_iff_of_unnamed (hnamed : given? named = none) :
    locate host cwd named root = .ok (some path) ↔
      IsSought host cwd named root path ∧ host.exists? path = .ok true := by
  unfold locate
  rw [hnamed]
  constructor
  · intro h
    obtain ⟨start, hstart, h⟩ := bind_eq_ok h
    obtain ⟨directory, hdirectory, h⟩ := bind_eq_ok h
    obtain ⟨before, name, after, hnames, rfl, hbefore, hexists⟩ :=
      firstThere_eq_some_iff.1 (mapError_eq_ok_iff.1 h)
    exact ⟨.inDirectory hnamed (mapError_eq_ok_iff.1 hstart) (mapError_eq_ok_iff.1 hdirectory)
      hnames hbefore, hexists⟩
  · rintro ⟨hsought, hexists⟩
    cases hsought with
    | named hname => exact nomatch hnamed.symm.trans hname
    | inDirectory _ hresolve hdirectory hnames hbefore =>
      dsimp only
      rw [hresolve, mapError_ok, ok_bind, hdirectory, mapError_ok, ok_bind, mapError_eq_ok_iff]
      exact firstThere_eq_some_iff.2 ⟨_, _, _, hnames, rfl, hbefore, hexists⟩

/-- The file that is found is the first that is sought and there. -/
theorem locate_eq_some_iff :
    locate host cwd named root = .ok (some path) ↔
      IsSought host cwd named root path ∧ host.exists? path = .ok true := by
  cases hnamed : given? named with
  | some name => exact locate_eq_some_iff_of_named hnamed
  | none => exact locate_eq_some_iff_of_unnamed hnamed

/-- A file that is named and missing is refused. -/
theorem locate_of_missing {name : String} (hnamed : given? named = some name)
    (hresolve : host.resolve cwd name = .ok path) (hmissing : host.exists? path = .ok false) :
    locate host cwd named root = .error (.refused (.fileNotFound path.text)) := by
  unfold locate
  rw [hnamed]
  dsimp only
  rw [hresolve, mapError_ok, ok_bind, hmissing, mapError_ok, ok_bind]
  rfl

/-- No file is found in a directory without one. -/
theorem locate_of_no_file {start directory : Path} (hnamed : given? named = none)
    (hresolve : host.resolve cwd root = .ok start)
    (hdirectory : host.directoryOf start = .ok directory)
    (hmissing : ∀ n ∈ fileNames, host.exists? (directory ++ [n]) = .ok false) :
    locate host cwd named root = .ok none := by
  unfold locate
  rw [hnamed]
  dsimp only
  rw [hresolve, mapError_ok, ok_bind, hdirectory, mapError_ok, ok_bind,
    firstThere_eq_none hmissing, mapError_ok]

/-- The faults of looking for the settings of a scan that are no refusals. -/
inductive LocateBreaks (host : Host) (cwd : Path) (named : Option String) (root : String) :
    SettingsError → Prop where
  /-- The name of the file leads nowhere, or that of the root if none is named. -/
  | unresolvable {e : FileTree.ResolveError} :
    host.resolve cwd ((given? named).getD root) = .error e →
      LocateBreaks host cwd named root (.unresolvable e)
  /-- It is not told whether the root is a directory. -/
  | noDirectory {start : Path} {e : IoError} :
    given? named = none → host.resolve cwd root = .ok start → host.directoryOf start = .error e →
      LocateBreaks host cwd named root (.inaccessible e)
  /-- It is not told whether the file is there. -/
  | inaccessible {path : Path} {e : IoError} :
    IsSought host cwd named root path → host.exists? path = .error e →
      LocateBreaks host cwd named root (.inaccessible e)

/-- What breaks the search is no refusal. -/
theorem LocateBreaks.ne_refused {e : SettingsError} (h : LocateBreaks host cwd named root e)
    (refusal : Refusal) : e ≠ .refused refusal := by
  cases h <;> exact nofun

/-- When looking for a file that is named fails without a refusal. -/
private theorem locate_eq_error_iff_of_named {e : SettingsError} {name : String}
    (hnamed : given? named = some name) (he : ∀ r, e ≠ .refused r) :
    locate host cwd named root = .error e ↔ LocateBreaks host cwd named root e := by
  unfold locate
  rw [hnamed]
  constructor
  · intro h
    obtain h | ⟨path, hpath, h⟩ := bind_eq_error_iff.1 h
    · obtain ⟨e', he', rfl⟩ := mapError_eq_error_iff.1 h
      exact .unresolvable (by rw [hnamed]; exact he')
    · obtain h | ⟨there, hthere, h⟩ := bind_eq_error_iff.1 h
      · obtain ⟨e', he', rfl⟩ := mapError_eq_error_iff.1 h
        exact .inaccessible (.named hnamed (mapError_eq_ok_iff.1 hpath)) he'
      · -- a file that is there is found, and one that is missing is refused
        cases there with
        | true => exact nomatch h
        | false => exact absurd (Except.error.inj h).symm (he _)
  · intro h
    dsimp only
    cases h with
    | unresolvable hresolve =>
      rw [hnamed] at hresolve
      rw [show host.resolve cwd name = _ from hresolve]
      rfl
    | noDirectory hnone => exact nomatch hnamed.symm.trans hnone
    | inaccessible hsought hexists =>
      cases hsought with
      | named hname hresolve =>
        obtain rfl := Option.some.inj (hnamed.symm.trans hname)
        rw [hresolve, mapError_ok, ok_bind, hexists]
        rfl
      | inDirectory hnone => exact nomatch hnamed.symm.trans hnone

/-- When looking for a file in the directory of the scan fails without a refusal. -/
private theorem locate_eq_error_iff_of_unnamed {e : SettingsError} (hnamed : given? named = none) :
    locate host cwd named root = .error e ↔ LocateBreaks host cwd named root e := by
  unfold locate
  rw [hnamed]
  constructor
  · intro h
    obtain h | ⟨start, hstart, h⟩ := bind_eq_error_iff.1 h
    · obtain ⟨e', he', rfl⟩ := mapError_eq_error_iff.1 h
      exact .unresolvable (by rw [hnamed]; exact he')
    have hstart := mapError_eq_ok_iff.1 hstart
    obtain h | ⟨directory, hdirectory, h⟩ := bind_eq_error_iff.1 h
    · obtain ⟨e', he', rfl⟩ := mapError_eq_error_iff.1 h
      exact .noDirectory hnamed hstart he'
    -- the directory is known, so that one of its names is at fault
    have hdirectory := mapError_eq_ok_iff.1 hdirectory
    obtain ⟨e', he', rfl⟩ := mapError_eq_error_iff.1 h
    obtain ⟨before, name, after, hnames, hbefore, hname⟩ := firstThere_eq_error_iff.1 he'
    exact .inaccessible (.inDirectory hnamed hstart hdirectory hnames hbefore) hname
  · intro h
    dsimp only
    cases h with
    | unresolvable hresolve =>
      rw [hnamed] at hresolve
      rw [show host.resolve cwd root = _ from hresolve]
      rfl
    | noDirectory _ hresolve hdirectory =>
      rw [hresolve, mapError_ok, ok_bind, hdirectory]
      rfl
    | inaccessible hsought hexists =>
      cases hsought with
      | named hname => exact nomatch hnamed.symm.trans hname
      | inDirectory _ hresolve hdirectory hnames hbefore =>
        rw [hresolve, mapError_ok, ok_bind, hdirectory, mapError_ok, ok_bind]
        refine mapError_eq_error_iff.2 ⟨_, firstThere_eq_error_iff.2 ?_, rfl⟩
        exact ⟨_, _, _, hnames, hbefore, hexists⟩

/-- When looking for a settings file fails without a refusal. -/
theorem locate_eq_error_iff {e : SettingsError} (he : ∀ r, e ≠ .refused r) :
    locate host cwd named root = .error e ↔ LocateBreaks host cwd named root e := by
  cases hnamed : given? named with
  | some name => exact locate_eq_error_iff_of_named hnamed he
  | none => exact locate_eq_error_iff_of_unnamed hnamed

end Settings

end SecretScan
