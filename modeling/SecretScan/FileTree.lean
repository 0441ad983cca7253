import SecretScan.Text.Lines
import SecretScan.Text.Quoted

/-!
# File trees

A snapshot of a file system: directories with named entries, regular files with their bytes, and
symbolic links with their targets. A path is the list of names from the root down.

`FileTree.locate` finds what a path leads to, step by step and through links, or says why it leads
nowhere. `FileTree.resolve` turns a path text into the path without links, `.` and `..`; the path
need not exist.
-/

namespace SecretScan

/-- What a name in a directory stands for. -/
inductive Entry where
  | file (content : ByteArray)
  | link (target : String)
  | dir (entries : List (String × Entry))

instance : Inhabited Entry := ⟨.dir []⟩

/-- The names from the root down. -/
abbrev Path := List String

/-- A snapshot of a file system: the entries of its root. -/
structure FileTree where
  entries : List (String × Entry) := []

/-- Why the file system refuses an operation. -/
inductive IoError where
  | notFound
  | permissionDenied
  | notDirectory
  | isDirectory
  | nameTooLong
  | tooManyLinks
  | other (number : Nat) (reason : String)
  deriving DecidableEq, Repr

/-- The number of an error. -/
def IoError.number : IoError → Nat
  | .notFound => 2
  | .permissionDenied => 13
  | .notDirectory => 20
  | .isDirectory => 21
  | .nameTooLong => 36
  | .tooManyLinks => 40
  | .other number _ => number

/-- The wording of an error. -/
def IoError.reason : IoError → String
  | .notFound => "No such file or directory"
  | .permissionDenied => "Permission denied"
  | .notDirectory => "Not a directory"
  | .isDirectory => "Is a directory"
  | .nameTooLong => "File name too long"
  | .tooManyLinks => "Too many levels of symbolic links"
  | .other _ reason => reason

/-- Does the error tell that a path leads nowhere? -/
def IoError.isAbsence (e : IoError) : Bool :=
  -- besides the obvious ones it is that of a bad file descriptor
  [2, 9, 20, 40].contains e.number

/-- How many bytes a name may have. -/
def nameLimit : Nat := 255

/-- The error of looking for a name that is not there. -/
def IoError.ofMissing (name : String) : IoError :=
  if nameLimit < name.utf8ByteSize then .nameTooLong else .notFound

/-- The message for an error at a path. -/
def IoError.message (e : IoError) (path : String) : String :=
  "[Errno " ++ toString e.number ++ "] " ++ e.reason ++ ": " ++ Text.quoted path

namespace Path

/-- The text of an absolute path. -/
def text (p : Path) : String :=
  "/" ++ "/".intercalate p

/-- The names in the text of a path. Empty names and single dots say nothing. -/
def names (path : String) : List String :=
  ((Text.cutAt '/' path.toList).map String.ofList).filter fun n => n != "" && n != "."

/-- Does the text start at the root? -/
def isAbsolute (path : String) : Bool :=
  path.toList.head? = some '/'

/-- The slashes with which a plain path begins: two if the text begins with exactly two, otherwise
one at most. -/
def leadingSlashes (path : String) : String :=
  match path.toList with
  | '/' :: '/' :: '/' :: _ => "/"
  | '/' :: '/' :: _ => "//"
  | '/' :: _ => "/"
  | _ => ""

/-- The text of a path in its plain form: no empty names, no single dots, no slash at the end. -/
def plain (path : String) : String :=
  let body := "/".intercalate (names path)
  let whole := leadingSlashes path ++ body
  if whole = "" then "." else whole

/-- The path that a text names from a directory; double dots stay. -/
def under (directory : Path) (path : String) : Path :=
  if isAbsolute path then names path else directory ++ names path

/-- The directory that holds a path; the root holds itself. -/
def parent (p : Path) : Path :=
  p.dropLast

/-- The last name of a path. -/
def fileName (p : Path) : String :=
  p.getLast?.getD ""

end Path

namespace FileTree

/-- The entry of a name. -/
def child? (entries : List (String × Entry)) (name : String) : Option Entry :=
  entries.lookup name

/-- The entry at a path of real directories, links not followed. -/
def findIn? (entries : List (String × Entry)) : Path → Option Entry
  | [] => some (.dir entries)
  | name :: rest =>
    match child? entries name with
    | some (.dir inner) => findIn? inner rest
    | some e => if rest.isEmpty then some e else none
    | none => none

/-- The entry at a path, links not followed. -/
def find? (t : FileTree) (p : Path) : Option Entry :=
  findIn? t.entries p

/-- How many links a path may pass through. -/
def linkLimit : Nat := 40

/-- Walks from the real directory `here` along `rest`; `links` more links may be passed. -/
def locateFrom (t : FileTree) (links : Nat) (here : Path) (rest : List String) :
    Except IoError (Path × Entry) :=
  match rest with
  | [] =>
    match t.find? here with
    | some e => .ok (here, e)
    | none => .error .notFound
  | name :: rest =>
    match t.find? here with
    | some (.dir entries) =>
      -- `here` is a real directory, so the one above it is its parent in the tree
      if name = ".." then t.locateFrom links here.parent rest
      else
        match child? entries name with
        | none => .error (.ofMissing name)
        | some (.link target) =>
          match links with
          | 0 => .error .tooManyLinks
          | links + 1 =>
            let start := if Path.isAbsolute target then [] else here
            -- the target takes the place of the link; the rest of the path goes on from there
            t.locateFrom links start (Path.names target ++ rest)
        | some _ => t.locateFrom links (here ++ [name]) rest
    | some _ => .error .notDirectory
    | none => .error .notFound
termination_by (links, rest.length)

/-- What a path leads to, through links: its real path and its entry. -/
def locate (t : FileTree) (p : Path) : Except IoError (Path × Entry) :=
  t.locateFrom linkLimit [] p

/-- The real path of what a path leads to; a path that leads nowhere stands for itself. -/
def realPath (t : FileTree) (p : Path) : Path :=
  match t.locate p with
  | .ok (real, _) => real
  | .error _ => p

/-- Does the path lead to a directory? -/
def isDir (t : FileTree) (p : Path) : Bool :=
  match t.locate p with
  | .ok (_, .dir _) => true
  | _ => false

/-- Does the path lead to a regular file? -/
def isFile (t : FileTree) (p : Path) : Bool :=
  match t.locate p with
  | .ok (_, .file _) => true
  | _ => false

/-- The bytes of the file that a path leads to. -/
def read (t : FileTree) (p : Path) : Except IoError ByteArray :=
  match t.locate p with
  | .ok (_, .file content) => .ok content
  | .ok _ => .error .isDirectory
  | .error e => .error e

/-! ## Resolving -/

/-- What is left to do when resolving: a name, or to note that a link is done. -/
inductive Task where
  | name (n : String)
  | done (link : Path)

/-- The names that are left. -/
def Task.names : List Task → List String
  | [] => []
  | .name n :: rest => n :: names rest
  | .done _ :: rest => names rest

mutual

/-- How many links there are below an entry. -/
def countLinks : Entry → Nat
  | .file _ => 0
  | .link _ => 1
  | .dir entries => countLinksIn entries

/-- How many links there are below some entries. -/
def countLinksIn : List (String × Entry) → Nat
  | [] => 0
  | (_, e) :: rest => countLinks e + countLinksIn rest

end

/-- Follows `tasks` from the real path `here`. Links that are done are kept with where they lead,
so each is followed once; one met again while it is being followed is part of a loop, and stays in
the path with all that comes after it. -/
def resolveFrom (t : FileTree) (links : Nat) (seen : List (Path × Option Path)) (here : Path)
    (tasks : List Task) : Path :=
  match tasks with
  | [] => here
  | .done link :: rest => t.resolveFrom links ((link, some here) :: seen) here rest
  | .name n :: rest =>
    if n = ".." then t.resolveFrom links seen here.parent rest
    else
      let next := here ++ [n]
      match t.find? next with
      | some (.link target) =>
        match seen.lookup next with
        -- followed before: it leads where it led then
        | some (some found) => t.resolveFrom links seen found rest
        -- being followed: a loop
        | some none => next ++ Task.names rest
        | none =>
          match links with
          | 0 => next ++ Task.names rest
          | links + 1 =>
            let start := if Path.isAbsolute target then [] else here
            t.resolveFrom links ((next, none) :: seen) start
              ((Path.names target).map .name ++ .done next :: rest)
      | _ => t.resolveFrom links seen next rest
termination_by (links, tasks.length)

/-- Drops double dots together with the name before each. -/
def withoutDots (p : Path) : Path :=
  p.foldl (fun here n => if n = ".." then here.dropLast else here ++ [n]) []

/-- Why a path cannot be resolved. -/
inductive ResolveError where
  | symlinkLoop
  | nullCharacter
  /-- There are surrogates in the path. -/
  | notEncodable
  /-- The directory that the path starts from is not known; that of a tree always is. -/
  | noDirectory (e : IoError)
  deriving DecidableEq, Repr

/-- The path that a text names from a directory, without links and dots. -/
def resolve (t : FileTree) (directory : Path) (path : String) : Except ResolveError Path :=
  if path.toList.contains (Char.ofNat 0) then .error .nullCharacter
  else
    -- each link is followed once, so there are never more to follow than the tree has
    let tasks := (Path.under directory path).map Task.name
    let found := withoutDots (t.resolveFrom (countLinksIn t.entries) [] [] tasks)
    -- a loop stays in what was found, and shows when that is looked up
    match t.locate found with
    | .error .tooManyLinks => .error .symlinkLoop
    | _ => .ok found

/-! ## Changing a tree -/

/-- Sets the entry of a name: in its place if there is one, at the end if not. -/
def putEntry (name : String) (e : Entry) : List (String × Entry) → List (String × Entry)
  | [] => [(name, e)]
  | (n, old) :: rest => if n = name then (n, e) :: rest else (n, old) :: putEntry name e rest

/-- Puts an entry at a path, with the directories above it. What stands in the way of a directory
is replaced by one. -/
def putIn (e : Entry) (entries : List (String × Entry)) : Path → List (String × Entry)
  | [] => entries
  | [name] => putEntry name e entries
  | name :: next :: rest =>
    let inner := match child? entries name with
      | some (.dir inner) => inner
      | _ => []
    putEntry name (.dir (putIn e inner (next :: rest))) entries

/-- Puts an entry at a path of real directories, with the directories above it. -/
def put (t : FileTree) (p : Path) (e : Entry) : FileTree :=
  ⟨putIn e t.entries p⟩

/-- Removes the entry at a path. -/
def removeIn (entries : List (String × Entry)) : Path → List (String × Entry)
  | [] => entries
  | [name] => entries.filter (·.1 != name)
  | name :: next :: rest =>
    match child? entries name with
    | some (.dir inner) => putEntry name (.dir (removeIn inner (next :: rest))) entries
    | _ => entries

/-- Removes the entry at a path of real directories. -/
def remove (t : FileTree) (p : Path) : FileTree :=
  ⟨removeIn t.entries p⟩

/-- Writes a file. Links are followed, also to a file that is not there yet; the directory must
exist. -/
def writeFrom (t : FileTree) (content : ByteArray) (links : Nat) (p : Path) :
    Except IoError FileTree :=
  match t.locate p with
  | .ok (real, .file _) => .ok (t.put real (.file content))
  | .ok _ => .error .isDirectory
  -- the file is not there: it can be a link to nothing, or a name that is free
  | .error .notFound =>
    match t.locate p.parent with
    | .error e => .error e
    | .ok (directory, .dir entries) =>
      match child? entries p.fileName with
      | some (.link target) =>
        match links with
        | 0 => .error .tooManyLinks
        | links + 1 => t.writeFrom content links (Path.under directory target)
      | _ =>
        if p.fileName = ".." then .error .isDirectory
        else .ok (t.put (directory ++ [p.fileName]) (.file content))
    | .ok _ => .error .notDirectory
  | .error e => .error e

/-- Writes a file where a path leads. -/
def write (t : FileTree) (p : Path) (content : ByteArray) : Except IoError FileTree :=
  t.writeFrom content linkLimit p

theorem child?_putEntry (name : String) (e : Entry) (entries : List (String × Entry)) :
    child? (putEntry name e entries) name = some e := by
  induction entries with
  | nil => simp [putEntry, child?]
  | cons p rest ih =>
    obtain ⟨n, old⟩ := p
    unfold putEntry
    split
    · next h => simp [child?, h]
    · next h =>
      unfold child? at ih ⊢
      rw [List.lookup_cons]
      simp [beq_false_of_ne (Ne.symm h), ih]

end FileTree

end SecretScan
