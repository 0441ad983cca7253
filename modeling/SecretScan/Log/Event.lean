import SecretScan.Log

/-!
# Events

What happens in a run and is logged. An event carries names, counts and reasons, and nothing of
what the files hold; its record adds the level, the part of the program and the wording.
-/

namespace SecretScan

/-- Something that happens in a run. -/
inductive Event where
  | defaultSettings
  | settingsLoaded (file : String)
  | ignoreListMissing (file : String)
  | ignoreListLoaded (file : String)
  | candidatesFound (count : Nat) (root : String)
  | fileIgnored (path : String)
  | fileUnreadable (file : String) (reason : String)
  | fileFailed (path : String) (reason : String)
  | limitReached (limit : Int)
  | scanComplete (files findings : Nat)
  | scanAborted
  deriving DecidableEq, Repr

namespace Event

/-- How grave the event is. -/
def level : Event → LogLevel
  | .settingsLoaded _ | .limitReached _ => .info
  | .fileFailed _ _ => .warning
  | _ => .debug

/-- The part of the program that the event belongs to. -/
def logger : Event → String
  | .defaultSettings | .settingsLoaded _ => "leaksniff.scanner.config"
  | .ignoreListMissing _ | .ignoreListLoaded _ => "leaksniff.scanner.ignore"
  | .scanAborted => "leaksniff.cli"
  | _ => "leaksniff.scanner.pipeline"

/-- The wording of the event. -/
def message : Event → String
  | .defaultSettings => "Using default scan config"
  | .settingsLoaded file => "Loaded config: " ++ file
  | .ignoreListMissing file => "Ignore file not found, nothing suppressed: " ++ file
  | .ignoreListLoaded file => "Loaded ignore file: " ++ file
  | .candidatesFound count root =>
    "Found " ++ toString count ++ " candidate files under " ++ root
  | .fileIgnored path => "Ignored: " ++ path
  | .fileUnreadable file reason => "Failed to read " ++ file ++ ": " ++ reason
  | .fileFailed path reason => "Scan task failed for " ++ path ++ ": " ++ reason
  | .limitReached limit => "Reached max findings (" ++ toString limit ++ "), stopping"
  | .scanComplete files findings =>
    "Scan complete: " ++ toString files ++ " files, " ++ toString findings ++ " findings"
  | .scanAborted => "Scan aborted"

/-- The record of the event. -/
def toRecord (e : Event) : LogRecord :=
  { level := e.level, logger := e.logger, message := e.message }

end Event

end SecretScan
