import SecretScan.FileTree
import SecretScan.Pattern.Parser
import SecretScan.Yaml.Document

/-!
# Hosts

What settings are taken from besides themselves: a file system, and readers of documents and of
patterns. What is said about the checking of settings holds for every `Host`, whatever its files are
and however reading fails. `FileTree.host` is the one with the files of a tree, and with the readers
of this library.
-/

namespace SecretScan

/-- What a path can lead to. -/
inductive FileKind where
  | file
  | directory
  | other
  deriving DecidableEq, Repr

/-- What settings are taken from. -/
structure Host where
  /-- The path that a text names from a directory, without links and dots. -/
  resolve : Path → Text.Wide → Except FileTree.ResolveError Path
  /-- What a path leads to. -/
  kindOf : Path → Except IoError FileKind
  /-- The bytes of the file that a path leads to. -/
  read : Path → Except IoError ByteArray
  /-- The value of the document in a file. -/
  valueOf : ByteArray → Except Yaml.Error Value
  /-- The pattern of a text. -/
  patternOf : Text.Wide → Except Pattern.Error Pattern

namespace Host

/-- Does the path lead to something? That it leads nowhere is no fault, but other errors are. -/
def exists? (h : Host) (p : Path) : Except IoError Bool :=
  match h.kindOf p with
  | .ok _ => .ok true
  | .error e => if e.isAbsence then .ok false else .error e

/-- Does the path lead to a directory? -/
def isDir (h : Host) (p : Path) : Except IoError Bool :=
  match h.kindOf p with
  | .ok kind => .ok (kind == .directory)
  | .error e => if e.isAbsence then .ok false else .error e

/-- The directory of a scan: the root of the scan, or the one that holds it. -/
def directoryOf (h : Host) (root : Path) : Except IoError Path := do
  return if ← h.isDir root then root else root.parent

end Host

namespace FileTree

/-- How many bytes the text of a path may have, less one. -/
def pathLimit : Nat := 4096

/-- What a path leads to. -/
def kindOf (t : FileTree) (p : Path) : Except IoError FileKind :=
  if pathLimit ≤ p.text.utf8ByteSize then .error .nameTooLong
  else
    match t.locate p with
    | .ok (_, .file _) => .ok .file
    | .ok (_, .dir _) => .ok .directory
    | .ok (_, .link _) => .ok .other
    | .error e => .error e

/-- The path that a text names, surrogates included. Those that stand for single bytes are in no
name of a tree; there are no bytes for the others. -/
def resolveWide (t : FileTree) (directory : Path) : Text.Wide → Except ResolveError Path
  | .wellFormed name => t.resolve directory name
  | .illFormed name =>
    if name.content.any fun p => p.isSurrogate && !(0xDC80 ≤ p.number && p.number ≤ 0xDCFF) then
      .error .notEncodable
    else t.resolve directory (Text.Wide.illFormed name).shown

/-- The host with the files of a tree. -/
def host (t : FileTree) : Host where
  resolve := t.resolveWide
  kindOf := t.kindOf
  read p := if pathLimit ≤ p.text.utf8ByteSize then .error .nameTooLong else t.read p
  valueOf content := Yaml.read content.data.toList
  patternOf source := Pattern.parse source.shown

instance : Coe FileTree Host := ⟨host⟩

end FileTree

end SecretScan
