import SecretScan.Text.Quoted

/-!
# Why a pattern is refused

A refusal names its cause and, in most cases, the position of the cause in the pattern. Some causes
are no faults of the pattern's form: the number of a character that is beyond all bounds, a
repetition count with too many digits to be read, one that is too large to be kept, and flags that
cannot hold together.
-/

namespace SecretScan.Pattern

/-- What is wrong with the form of a pattern. -/
inductive Reason where
  | escapeAtEnd
  | badEscape (escape : String)
  | incompleteEscape (escape : String)
  | octalTooLarge (escape : String)
  | undefinedCharacterName (name : String)
  | unterminatedSet
  | badRange (first last : String)
  | missing (what : String)
  | unterminatedName (terminator : Char)
  | badGroupName (name : String)
  | unknownGroupName (name : String)
  | redefinedGroup (name : String) (index earlier : Nat)
  | badGroupNumber
  | invalidGroupReference (index : Nat)
  | openGroup
  | groupOfSameLookbehind
  | tooManyBranches
  | unknownExtension (text : String)
  | unexpectedEnd
  | unterminatedComment
  | unterminatedGroup
  | unbalancedParenthesis
  | nothingToRepeat
  | multipleRepeat
  | minAboveMax
  | globalFlagsNotAtStart
  | unknownFlag
  | localeFlag
  | incompatibleFlags
  | globalFlagOn
  | globalFlagOff
  | typeFlagOff
  | flagOnAndOff
  | looseLookbehind
  | templateOperator (operator : String)
  deriving DecidableEq, Repr

/-- The wording of a reason. -/
def Reason.message : Reason → String
  | .escapeAtEnd => "bad escape (end of pattern)"
  | .badEscape e => "bad escape " ++ e
  | .incompleteEscape e => "incomplete escape " ++ e
  | .octalTooLarge e => "octal escape value " ++ e ++ " outside of range 0-0o377"
  | .undefinedCharacterName n => "undefined character name " ++ Text.quoted n
  | .unterminatedSet => "unterminated character set"
  | .badRange a b => "bad character range " ++ a ++ "-" ++ b
  | .missing what => "missing " ++ what
  | .unterminatedName t => "missing " ++ t.toString ++ ", unterminated name"
  | .badGroupName n => "bad character in group name " ++ Text.quoted n
  | .unknownGroupName n => "unknown group name " ++ Text.quoted n
  | .redefinedGroup n index earlier =>
    "redefinition of group name " ++ Text.quoted n ++ " as group " ++ toString index ++
      "; was group " ++ toString earlier
  | .badGroupNumber => "bad group number"
  | .invalidGroupReference n => "invalid group reference " ++ toString n
  | .openGroup => "cannot refer to an open group"
  | .groupOfSameLookbehind => "cannot refer to group defined in the same lookbehind subpattern"
  | .tooManyBranches => "conditional backref with more than two branches"
  | .unknownExtension t => "unknown extension ?" ++ t
  | .unexpectedEnd => "unexpected end of pattern"
  | .unterminatedComment => "missing ), unterminated comment"
  | .unterminatedGroup => "missing ), unterminated subpattern"
  | .unbalancedParenthesis => "unbalanced parenthesis"
  | .nothingToRepeat => "nothing to repeat"
  | .multipleRepeat => "multiple repeat"
  | .minAboveMax => "min repeat greater than max repeat"
  | .globalFlagsNotAtStart => "global flags not at the start of the expression"
  | .unknownFlag => "unknown flag"
  | .localeFlag => "bad inline flags: cannot use 'L' flag with a str pattern"
  | .incompatibleFlags => "bad inline flags: flags 'a', 'u' and 'L' are incompatible"
  | .globalFlagOn => "bad inline flags: cannot turn on global flag"
  | .globalFlagOff => "bad inline flags: cannot turn off global flag"
  | .typeFlagOff => "bad inline flags: cannot turn off flags 'a', 'u' and 'L'"
  | .flagOnAndOff => "bad inline flags: flag turned on and off"
  | .looseLookbehind => "look-behind requires fixed-width pattern"
  | .templateOperator o => "internal: unsupported template operator " ++ o

/-- Why a pattern is refused. -/
inductive Error where
  | malformed (reason : Reason) (pos : Option Nat)
  | characterTooLarge
  | repetitionTooLong
  | repetitionTooLarge
  | contradictoryFlags
  deriving DecidableEq, Repr

/-- The wording of a refusal of the pattern `source`. In a pattern of several lines the position
is also given by line and column. -/
def Error.message (source : List Char) : Error → String
  | .characterTooLarge => "the character number is too large"
  | .repetitionTooLong => "the repetition number has too many digits"
  | .repetitionTooLarge => "the repetition number is too large"
  | .contradictoryFlags => "ASCII and UNICODE flags are incompatible"
  | .malformed reason none => reason.message
  | .malformed reason (some pos) =>
    let head := reason.message ++ " at position " ++ toString pos
    if source.contains '\n' then
      let before := source.take pos
      let line := before.count '\n' + 1
      let column := (before.reverse.takeWhile (· != '\n')).length + 1
      head ++ " (line " ++ toString line ++ ", column " ++ toString column ++ ")"
    else head

end SecretScan.Pattern
