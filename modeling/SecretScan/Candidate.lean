import SecretScan.FileTree
import SecretScan.Text.LetterCase

/-!
# Candidate files

Which files a scan looks at. `FileTree.candidates` lists the files below a directory whose names
end in a known extension or name an environment file, leaving out directories of dependencies and
build products, and never through a link. The list is sorted by the names along the paths.

Before a candidate is read its name and size are checked (`looksLikeText`), and then its first
bytes (`isBinary`).
-/

namespace SecretScan

/-- What the name of a candidate can be like. -/
inductive NamePattern where
  | ending (extension : String)
  | exactly (name : String)
  | starting (start : String)
  deriving DecidableEq

/-- Is the name like that? Case counts. -/
def NamePattern.admits (name : List Char) : NamePattern → Bool
  | .ending extension => extension.toList.isSuffixOf name
  | .exactly n => n.toList == name
  | .starting start => start.toList.isPrefixOf name

/-- What the names of candidates are like. -/
def candidateNames : List NamePattern :=
  [.ending ".js", .ending ".ts", .ending ".tsx", .ending ".jsx", .ending ".json", .ending ".env",
    .exactly ".env", .starting ".env.", .ending ".yml", .ending ".yaml", .ending ".toml",
    .ending ".py", .ending ".rb", .ending ".go", .ending ".java", .ending ".kt", .ending ".swift",
    .ending ".php", .ending ".html", .ending ".css", .ending ".md", .ending ".txt"]

/-- The extensions of text files. -/
def textExtensions : List String :=
  [".js", ".ts", ".tsx", ".jsx", ".json", ".env", ".yml", ".yaml", ".toml", ".py", ".rb", ".go",
    ".java", ".kt", ".swift", ".php", ".html", ".css", ".md", ".txt"]

/-- Directories of dependencies, build products, version control and caches. -/
def excludedDirectories : List String :=
  ["node_modules", ".git", "dist", "build", ".next", ".turbo", ".expo", "coverage", ".cache",
    "vendor", "pods", "DerivedData"]

/-- Is this the name of an environment file: `.env`, or `.env.` and anything? -/
def isDotenvName (name : List Char) : Bool :=
  name == ".env".toList || ".env.".toList.isPrefixOf name

/-- Is it the name of a candidate? -/
def isIncludedName (name : String) : Bool :=
  candidateNames.any (·.admits name.toList)

/-- The extension of a file name: from its last dot on, unless that is its first or its last
character. -/
def suffixOf (name : List Char) : List Char :=
  let tail := (name.reverse.takeWhile (· != '.')).reverse
  let head := name.length - tail.length
  if tail.isEmpty || head ≤ 1 then [] else '.' :: tail

/-- Does a file look like text, by its name? Case does not count. -/
def looksLikeText (path : String) : Bool :=
  let name := ((Path.names path).getLast?.getD "").toList
  let suffix := String.ofList (Text.lowered (suffixOf name))
  textExtensions.contains suffix || isDotenvName (Text.lowered name)

/-- How much of a file is looked at to tell whether it is text. -/
def binarySampleSize : Nat := 8000

/-- Is there a zero byte at the start of the content? -/
def isBinary (content : List UInt8) : Bool :=
  (content.take binarySampleSize).contains 0

/-- The size up to which files are read if no other is set. -/
def defaultMaxFileSize : Nat := 2 * 1024 * 1024

/-- Is the file worth reading, by name and size? -/
def isTextCandidate (path : String) (size maxFileSize : Int) : Bool :=
  looksLikeText path && size ≤ maxFileSize

/-- Is the file worth scanning? -/
def isScannable (path : String) (size : Int) (content : List UInt8) (maxFileSize : Int) : Bool :=
  isTextCandidate path size maxFileSize && !isBinary content

mutual

/-- The candidates at or below an entry at `path`; an excluded directory has none. -/
def Entry.candidates (path : Path) (name : String) : Entry → List Path
  | .file _ => if isIncludedName name then [path ++ [name]] else []
  | .link _ => []
  | .dir entries =>
    if excludedDirectories.contains name then [] else candidatesIn (path ++ [name]) entries

/-- The candidates among the entries of the directory at `path`. -/
def candidatesIn (path : Path) : List (String × Entry) → List Path
  | [] => []
  | (name, e) :: rest => e.candidates path name ++ candidatesIn path rest

end

/-- Does one path not come after another, by the names along them? -/
def Path.le (p q : Path) : Bool :=
  !decide (q < p)

/-- The candidates of a scan that starts at a resolved path: the file that it leads to, or the files
below the directory. -/
def FileTree.candidates (t : FileTree) (root : Path) : List Path :=
  match t.locate root with
  | .ok (_, .file _) => if isIncludedName root.fileName then [root] else []
  | .ok (_, .dir entries) => (candidatesIn root entries).mergeSort Path.le
  | _ => []

end SecretScan
