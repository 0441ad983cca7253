import SecretScan.Detection
import SecretScan.IgnoreList
import SecretScan.Log.Event
import SecretScan.Scan.Collector
import SecretScan.ScanOptions
import SecretScan.Text.Utf8

/-!
# Scanning

A scan goes through the candidate files in their order, leaves out those that are suppressed, and
collects the findings of the others until there are as many as were asked for. A file that cannot
be read has no findings; one at which reading fails in any other way is not even counted.

`Scan.run` is a pure function of a `Disk`: a file tree, and the files whose reading goes wrong.
Its `Scan.Progress` says what was collected, which phases the scan went through and what was logged.
-/

namespace SecretScan

/-- How reading a file can go wrong that is there. -/
inductive ReadFault where
  | denied
  | failure (reason : String)
  deriving DecidableEq, Repr

/-- A file tree, and the files whose reading goes wrong. -/
structure Disk where
  tree : FileTree
  faults : List (Path × ReadFault) := []

namespace Scan

/-- What comes of a file. -/
inductive Outcome where
  | scanned (findings : List Finding)
  | unreadable (reason : String)
  | failed (reason : String)

/-- The findings of a text under the options of a scan. -/
def findingsOf (options : ScanOptions) (file : String) (content : List UInt8) : List Finding :=
  detect (Text.Utf8.decodeLossy content) {
    path := file
    entropyThreshold := options.entropyThreshold
    suppressions := options.suppressions }

/-- Scans one file. Its name and size are looked at before it is opened. -/
def scanFile (disk : Disk) (options : ScanOptions) (path : Path) : Outcome :=
  let file := path.text
  match disk.tree.locate path with
  | .error e => .unreadable (e.message file)
  | .ok (_, .file content) =>
    -- the name and the size are known without opening the file, so they hide its faults
    if !isTextCandidate file content.size options.maxFileSize then .scanned []
    else
      match disk.faults.lookup path with
      | some .denied => .unreadable (IoError.permissionDenied.message file)
      | some (.failure reason) => .failed reason
      | none =>
        let bytes := content.data.toList
        if isBinary bytes then .scanned [] else .scanned (findingsOf options file bytes)
  | .ok _ =>
    -- a directory can be named like a text file
    if looksLikeText file then .unreadable (IoError.isDirectory.message file) else .scanned []

/-- Why an ignore list cannot be used. -/
inductive IgnoreListFault where
  | io (file : String) (e : IoError)
  | notUtf8 (fault : Text.Utf8.Fault)
  | malformed (e : IgnoreError)
  deriving DecidableEq, Repr

/-- The wording of a fault. -/
def IgnoreListFault.message : IgnoreListFault → String
  | .io file e => e.message file
  | .notUtf8 fault => fault.message
  | .malformed e => e.message

/-- Reads an ignore list, if one is named and exists; says what happened. -/
def loadIgnoreList (t : FileTree) (cwd : Path) (named : Option String) :
    Except IgnoreListFault (Option IgnoreList × List Event) :=
  match named.filter (!·.isEmpty) with
  | none => .ok (none, [])
  | some name =>
    let file := Path.plain name
    let path := Path.under cwd name
    match t.host.exists? path with
    | .error e => .error (.io file e)
    | .ok false => .ok (none, [.ignoreListMissing file])
    | .ok true =>
      match t.host.read path with
      | .error e => .error (.io file e)
      | .ok content =>
        let bytes := content.data.toList
        match Text.Utf8.fault? bytes with
        | some fault => .error (.notUtf8 fault)
        | none =>
          match IgnoreList.ofText (Text.withLineFeeds (Text.Utf8.decodeLossy bytes)) with
          | .ok l => .ok (some l, [.ignoreListLoaded file])
          | .error e => .error (.malformed e)

/-- The phases of a scan. -/
inductive Phase where
  | idle
  | enumerating
  | scanning
  | stopping
  | done
  deriving DecidableEq, Repr

/-- The name of a phase. -/
def Phase.name : Phase → String
  | .idle => "idle"
  | .enumerating => "enumerating"
  | .scanning => "scanning"
  | .stopping => "stopping"
  | .done => "done"

/-- How far a scan has come. -/
structure Progress where
  collector : Collector
  /-- The phases gone through, the last one last. -/
  phases : List Phase := []
  /-- What happened, the last event last. -/
  events : List Event := []

/-- How many names two paths have in common before they part. -/
def sharedNames : Path → Path → Nat
  | a :: p, b :: q => if a = b then sharedNames p q + 1 else 0
  | _, _ => 0

/-- The way from a directory to a path, as text: up as far as the two have nothing in common, and
down from there. -/
def relativePath (base path : Path) : String :=
  let shared := sharedNames base path
  let names := List.replicate (base.length - shared) ".." ++ path.drop shared
  if names.isEmpty then "." else "/".intercalate names

/-- Does the path lead out of the directory, or nowhere? -/
def leavesBase (relative : String) : Bool :=
  relative.isEmpty || relative == "." || ['.', '.'].isPrefixOf relative.toList

/-- Is a file left out: for its path, by the ignore list, or by a pattern? -/
def isSuppressed (options : ScanOptions) (ignoreList : Option IgnoreList) (relative : String) :
    Bool :=
  leavesBase relative || ignoreList.any (·.ignores relative) ||
    options.suppressions.any (·.occursIn relative.toList.toArray)

/-- The findings that are grave enough, under the path of the file below the root. -/
def keptFindings (options : ScanOptions) (relative : String) (found : List Finding) :
    List Finding :=
  (found.filter (·.severity.meets options.severity)).map (·.withFile relative)

/-- Notes an event. -/
def Progress.log (p : Progress) (e : Event) : Progress :=
  { p with events := p.events ++ [e] }

/-- Takes in the findings of a file that was scanned, and counts it. -/
def Progress.collect (p : Progress) (options : ScanOptions) (kept : List Finding) : Progress :=
  if kept.isEmpty then { p with collector := p.collector.fileDone }
  else
    -- the file is counted even if its findings are the last ones wanted
    let (collector, reached) := p.collector.add kept
    let p := { p with collector := collector.fileDone }
    if reached then
      { p with
        phases := p.phases ++ [.stopping]
        events := p.events ++ [.limitReached (options.maxFindings.getD 0)] }
    else p

/-- Goes on to the next file. Nothing happens once the scan has stopped. -/
def Progress.next (disk : Disk) (options : ScanOptions) (base : Path)
    (ignoreList : Option IgnoreList) (p : Progress) (path : Path) : Progress :=
  if p.collector.stopped then p
  else
    let relative := relativePath base path
    if isSuppressed options ignoreList relative then p.log (.fileIgnored relative)
    else
      match scanFile disk options path with
      | .failed reason => p.log (.fileFailed relative reason)
      | .unreadable reason => (p.log (.fileUnreadable path.text reason)).collect options []
      | .scanned found => p.collect options (keptFindings options relative found)

/-- Runs a scan. -/
def run (disk : Disk) (cwd : Path) (options : ScanOptions) : Except IgnoreListFault Progress := do
  let files := disk.tree.candidates (disk.tree.realPath options.root)
  let base := Settings.directoryOf disk.tree options.root
  let (ignoreList, loaded) ← loadIgnoreList disk.tree cwd options.ignoreFile
  let start : Progress := {
    collector := .empty options.maxFindings
    phases := [.idle, .enumerating, .scanning]
    events := loaded ++ [.candidatesFound files.length options.root.text] }
  let p := files.foldl (Progress.next disk options base ignoreList) start
  return {
    collector := p.collector
    phases := p.phases ++ [.done]
    events := p.events ++
      [.scanComplete p.collector.filesScanned p.collector.kept.length] }

/-- The findings that a scan reports. -/
def Progress.findings (p : Progress) : List Finding :=
  p.collector.kept

/-- A way to scan: what comes of a scan, or the wording of its fault. -/
abbrev Scanner := Disk → Path → ScanOptions → Except String Progress

/-- Scans one file after the other. -/
def oneByOne : Scanner := fun disk cwd options =>
  (run disk cwd options).mapError (·.message)

end Scan

end SecretScan
