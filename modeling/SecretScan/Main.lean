import SecretScan.CommandLine.Program
import Std.Time

/-!
# The executable

Takes a snapshot of the part of the disk that the arguments are about, runs the program on it, and
carries out what comes of the run.
-/

namespace SecretScan.CommandLine

/-- Adds what is at a path to a snapshot, directories with all that they hold. Files that cannot be
read are empty in the snapshot and noted as faults. -/
partial def addToSnapshot (disk : Disk) (path : String) : IO Disk := do
  let place := Path.names path
  let file ← try IO.FS.realPath path catch _ => return disk
  let real := file.toString
  if Path.names real != place then
    let disk := { disk with tree := disk.tree.put place (.link real) }
    if (disk.tree.find? (Path.names real)).isSome then return disk
    addToSnapshot disk real
  else if ← file.isDir then
    let mut disk := disk
    if (disk.tree.find? place).isNone then
      disk := { disk with tree := disk.tree.put place (.dir []) }
    for e in (← try file.readDir catch _ => pure #[]) do
      if !excludedDirectories.contains e.fileName then
        disk ← addToSnapshot disk e.path.toString
    return disk
  else
    try
      let content ← IO.FS.readBinFile file
      return { disk with tree := disk.tree.put place (.file content) }
    catch _ =>
      return { disk with
        tree := disk.tree.put place (.file ⟨#[]⟩)
        faults := (place, .denied) :: disk.faults }

/-- A path from the current directory. -/
def absolute (cwd path : String) : String :=
  (Path.under (Path.names cwd) path).text

/-- The paths that a command is about. -/
def placesOf (cwd : String) : Request → List String
  | .run (.scan c) =>
    let root := absolute cwd c.root
    let above := (Path.parent (Path.names root)).text
    let beside := (Settings.fileNames ++ [ScanOptions.defaultIgnoreName]).map fun n =>
      absolute above n
    let named := (c.config.toList ++ c.ignoreFile.toList).map (absolute cwd)
    root :: beside ++ named
  | _ => []

/-- The files that a command may write. -/
def targetsOf (cwd : String) : Request → List String
  | .run (.scan c) =>
    ((c.out.toList ++ c.sarifOut.toList).filter (!·.isEmpty)).map (absolute cwd)
  | _ => []

/-- The variables of the environment that the program looks at. -/
def variableNames : List String :=
  ["COLUMNS", "GITHUB_RUN_ID", "GITHUB_JOB", "GITHUB_RUN_ATTEMPT"]

/-- Adds the directories that hold files to be written, without what is in them. -/
def addTargets (disk : Disk) (targets : List String) : IO Disk := do
  let mut disk := disk
  for target in targets do
    let directory := Path.parent (Path.names target)
    if (← try (← IO.FS.realPath directory.text).isDir catch _ => pure false) then
      if (disk.tree.find? directory).isNone then
        disk := { disk with tree := disk.tree.put directory (.dir []) }
    if (← try (← IO.FS.realPath target).isDir catch _ => pure false) then
      disk := { disk with tree := disk.tree.put (Path.names target) (.dir []) }
  return disk

/-- The time of day in universal time, as a format says. -/
def timeText (format : LogFormat) : IO String := do
  let wall := Std.Time.WallTime.ofTimestamp (← Std.Time.Timestamp.now) Std.Time.TimeZone.UTC.offset
  let time := Std.Time.PlainDateTime.ofWallTime wall
  match format with
  | .text => return time.format "uuuu-MM-dd HH:mm:ss"
  | .json => return time.format "uuuu-MM-dd'T'HH:mm:ss.SSSSSS'Z'"

/-- Writes a notice to the error stream. -/
def showNotice : Notice → IO Unit
  | .text s => IO.eprint s
  | .record format r => do IO.eprintln (r.line format (← timeText format))

/-- The wording of a failure. -/
def Failure.message : Failure → String
  | .unwritable file e => e.message file
  | .settings (.refused r) => r.text
  | .settings _ => "the settings cannot be used"
  | .markup _ => "a finding cannot be shown as a table"
  | .unconvertible _ => "the report cannot be converted"

/-- The time in seconds. -/
def seconds : IO Float := do
  return Float.ofNat (← IO.monoMsNow) / 1000

/-- Runs the program with the arguments of the command line. -/
def execute (arguments : List String) : IO UInt32 := do
  let cwd := (← IO.currentDir).toString
  let request := Request.ofArguments arguments
  let start ← seconds
  let mut disk : Disk := ⟨{}, []⟩
  for place in placesOf cwd request do
    disk ← addToSnapshot disk place
  let targets := targetsOf cwd request
  disk ← addTargets disk targets
  let mut environment := []
  for name in variableNames do
    if let some text ← IO.getEnv name then environment := (name, text) :: environment
  let stop ← seconds
  let outcome := run { disk, cwd := Path.names cwd, environment, start, stop } arguments
  outcome.notices.forM showNotice
  for target in targets do
    let place := Path.names target
    if let .ok content := outcome.tree.read place then
      if (disk.tree.read place).toOption != some content then
        IO.FS.writeBinFile target content
  IO.print outcome.output
  match outcome.ending with
  | .returned s | .dismissed s => return s.code.toUInt32
  | .brokenOff f =>
    IO.eprintln f.message
    return 1

end SecretScan.CommandLine

/-- The executable. -/
def main (arguments : List String) : IO UInt32 :=
  SecretScan.CommandLine.execute arguments
