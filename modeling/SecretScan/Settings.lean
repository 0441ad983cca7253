import SecretScan.Host
import SecretScan.Settings.Error

/-!
# Settings

What a settings file says: values of any type, taken as they are, and the patterns that suppress
findings. `Settings.load` looks for the file and reads it. A file that is named is the only one that
is looked at; otherwise the first that exists of two names in the directory of the scan.
-/

namespace SecretScan

/-- What a settings file says. -/
structure Settings where
  severity : Option Value := none
  entropy : Option Value := none
  maxFindings : Option Value := none
  maxFileSize : Option Value := none
  ignoreFile : Option Value := none
  /-- The patterns that suppress findings; none where there is no settings file at all. -/
  patterns : Option (List Text.Wide) := none

namespace Settings

/-- The keys that a settings file may have. -/
def knownKeys : List String :=
  ["severity", "entropy", "max_findings", "max_file_size", "ignore_file", "ignore_regex"]

/-- The names of settings files, the preferred one first. -/
def fileNames : List String :=
  [".leaksniff.yml", ".leaksniff.yaml"]

/-- The value of a key. -/
def valueOf? (key : String) : List (Value × Value) → Option Value
  | [] => none
  | (k, v) :: rest => if k.same (.text key) then some v else valueOf? key rest

/-- Is the key a known one? -/
def isKnown (key : Value) : Bool :=
  knownKeys.any fun k => key.same (.text k)

/-- Puts a value under a key: in its place if there is one, at the end if not. -/
def putEntry (key : String) (value : Value) : List (Value × Value) → List (Value × Value)
  | [] => [(.text key, value)]
  | (k, old) :: rest =>
    if k.same (.text key) then (k, value) :: rest else (k, old) :: putEntry key value rest

/-- A mapping with a value under a key. A mapping that is part of itself is so with the value. -/
def withEntry (key : String) (value : Value) : Value → Value
  | .mapping entries => .mapping (putEntry key value entries)
  | .marked mark (.mapping entries) => .marked mark (.mapping (putEntry key value entries))
  | v => v

/-- The entries of a value; only a mapping has some. -/
def entriesOf (v : Value) : List (Value × Value) :=
  match v.inside with
  | .mapping entries => entries
  | _ => []

/-- The patterns of an entry: a text is a single one, and the items of a list are read as texts. -/
def patternsOf (file : String) : Option Value → Except SettingsError (List Text.Wide)
  | none => .ok []
  | some v =>
    match v.inside with
    | .text p => .ok [p]
    | .list items =>
      if Value.areShowable items then .ok (items.map Value.asText) else .error .unshowable
    | _ => .error (.refused (.patternsNotList file))

/-- The settings that entries and patterns make up. -/
def ofEntries (entries : List (Value × Value)) (patterns : List Text.Wide) : Settings where
  severity := valueOf? "severity" entries
  entropy := valueOf? "entropy" entries
  maxFindings := valueOf? "max_findings" entries
  maxFileSize := valueOf? "max_file_size" entries
  ignoreFile := valueOf? "ignore_file" entries
  patterns := some patterns

/-- Takes the settings from the value of a file, with the patterns as texts in it. -/
def ofValue (file : String) (v : Value) : Except SettingsError Settings := do
  let entries ← match v.inside with
    | .null => pure []
    | .mapping entries => pure entries
    | _ => throw (.refused (.notMapping file))
  let unknown := (entries.map (·.1)).filter (!isKnown ·)
  if !unknown.isEmpty then
    match Value.sortKeys? unknown with
    | some keys =>
      throw (if Value.areShowable keys then .refused (.unknownKeys file keys) else .unshowable)
    | none => throw .mixedKeys
  let patterns ← patternsOf file (valueOf? "ignore_regex" entries)
  let texts := .list (patterns.map .text)
  return ofEntries (entriesOf (withEntry "ignore_regex" texts v)) patterns

/-- Reads a settings file. -/
def ofFile (h : Host) (path : Path) : Except SettingsError Settings :=
  let file := path.text
  match h.read path with
  | .error e => .error (.refused (.unreadableFile file (.io e)))
  | .ok content =>
    match h.valueOf content with
    | .ok v => ofValue file v
    | .error .malformed => .error (.refused (.unreadableFile file .malformed))
    | .error e => .error (.valueless e)

/-- A text that is there and not empty. -/
def given? (text : Option String) : Option String :=
  text.filter (!·.isEmpty)

/-- The directory in which the settings file of a scan is looked for. -/
def directoryOf (t : FileTree) (root : Path) : Path :=
  if t.isDir root then root else root.parent

/-- The first of some paths that leads to something. -/
def firstThere (h : Host) : List Path → Except IoError (Option Path)
  | [] => .ok none
  | p :: rest => do if ← h.exists? p then return some p else firstThere h rest

/-- Where the settings of a scan are to be read from, if from anywhere. -/
def locate (h : Host) (cwd : Path) (named : Option String) (root : String) :
    Except SettingsError (Option Path) := do
  match given? named with
  | some name =>
    let path ← (h.resolve cwd name).mapError .unresolvable
    if ← (h.exists? path).mapError .inaccessible then return some path
    else throw (.refused (.fileNotFound path.text))
  | none =>
    let start ← (h.resolve cwd root).mapError .unresolvable
    let directory ← (h.directoryOf start).mapError .inaccessible
    (firstThere h (fileNames.map fun n => directory ++ [n])).mapError .inaccessible

/-- The settings of a scan and the file that they were read from. -/
def load (h : Host) (cwd : Path) (named : Option String) (root : String) :
    Except SettingsError (Option Path × Settings) := do
  match ← locate h cwd named root with
  | some path => return (some path, ← ofFile h path)
  | none => return (none, {})

end Settings

end SecretScan
