import SecretScan.FileTree
import SecretScan.Pattern.Error
import SecretScan.Value
import SecretScan.Yaml.Error

/-!
# Why settings are refused

A `Refusal` is a fault that the user is told about: its message names the cause, and where it has
one the option or the settings file. Other faults (`SettingsError`) end the work without a message
of their own.
-/

namespace SecretScan

/-- Why a settings file cannot be read. -/
inductive UnreadableFile where
  | io (e : IoError)
  | malformed
  deriving DecidableEq, Repr

/-- A fault that the user is told about. -/
inductive Refusal where
  | pathNotFound (path : String)
  | invalidSeverity (value : Value)
  | invalidEntropy
  | invalidMaxFindings
  | invalidMaxFileSize
  | invalidPattern (pattern : Text.Wide) (error : Pattern.Error)
  | fileNotFound (file : String)
  | unreadableFile (file : String) (cause : UnreadableFile)
  | notMapping (file : String)
  | unknownKeys (file : String) (keys : List Value)
  | patternsNotList (file : String)

namespace Refusal

/-- What stands in a message for the description of a malformed settings file. -/
def malformedText : String :=
  "<yaml error>"

/-- The text of a cause. -/
def causeText (file : String) : UnreadableFile → String
  | .io e => e.message file
  | .malformed => malformedText

/-- The message of a refusal, without what it is about. -/
def message : Refusal → String
  | .pathNotFound path => "Path not found: " ++ path
  | .invalidSeverity value => "Invalid severity: " ++ value.shown
  | .invalidEntropy => "Invalid entropy threshold"
  | .invalidMaxFindings => "Invalid max-findings value"
  | .invalidMaxFileSize => "Invalid max-file-size value"
  | .invalidPattern pattern e =>
    let shown := pattern.shown
    "Invalid ignore-regex pattern: " ++ shown ++ " (" ++ e.message shown.toList ++ ")"
  | .fileNotFound file => "Specified config file not found: " ++ file
  | .unreadableFile file cause => "Failed to parse config file: " ++ causeText file cause
  | .notMapping _ => "Config must be a mapping"
  | .unknownKeys _ keys => "Unknown config keys: " ++ ", ".intercalate (keys.map Value.shown)
  | .patternsNotList _ => "ignore_regex must be a list of patterns"

/-- The option that a refusal is about. -/
def option : Refusal → Option String
  | .pathNotFound _ => some "path"
  | .invalidSeverity _ => some "severity"
  | .invalidEntropy => some "entropy"
  | .invalidMaxFindings => some "max_findings"
  | .invalidMaxFileSize => some "max_file_size"
  | .invalidPattern _ _ => some "ignore_regex"
  | _ => none

/-- The settings file that a refusal is about. -/
def file : Refusal → Option String
  | .fileNotFound file | .unreadableFile file _ | .notMapping file | .unknownKeys file _
  | .patternsNotList file => some file
  | _ => none

/-- A remark in parentheses, if there is something to remark. -/
def remark (label : String) (about : Option String) : String :=
  match about with
  | some text => if text.isEmpty then "" else " (" ++ label ++ ": " ++ text ++ ")"
  | none => ""

/-- A message with remarks on the settings file and the option that it is about. -/
def withRemarks (message : String) (file option : Option String) : String :=
  message ++ remark "config" file ++ remark "option" option

/-- The whole text of a refusal. -/
def text (r : Refusal) : String :=
  withRemarks r.message r.file r.option

end Refusal

/-- Why settings cannot be used. -/
inductive SettingsError where
  | refused (r : Refusal)
  /-- A whole number is beyond the range of floating-point numbers. -/
  | numberTooLarge
  /-- A value that is no text stands where a path or a pattern is wanted. -/
  | notText
  | unresolvable (e : FileTree.ResolveError)
  /-- The file system does not tell what a path leads to. -/
  | inaccessible (e : IoError)
  /-- A pattern is well-formed but cannot be used. -/
  | unusablePattern (e : Pattern.Error)
  /-- The unknown keys cannot be sorted. -/
  | mixedKeys
  /-- The settings file is no text, or asks for a value that there is not. -/
  | valueless (e : Yaml.Error)

/-- A message would show a whole number that has no numeral, because it would be too long. -/
def SettingsError.unshowable : SettingsError :=
  .valueless .invalidNumber

end SecretScan
