/-!
# What is wrong with a document

Most faults are faults of form, and are not told apart. The others arise when a well-formed
document asks for a value that there is not: a number, a date or a truth value of a wrong spelling;
or when the bytes of a document are no text.
-/

namespace SecretScan.Yaml

/-- Why a document has no value. -/
inductive Error where
  /-- The text is no document, or asks for something that documents cannot hold. -/
  | malformed
  | notUtf8
  /-- A character is asked for by a number that no character has. -/
  | noSuchCharacter
  /-- A character is asked for by a number beyond all bounds. -/
  | characterTooLarge
  | invalidNumber
  | emptyNumber
  | numberTooLarge
  | noSuchDate
  | notDate
  /-- A date is asked for where there is a mapping. -/
  | dateOfMapping
  | unknownTruthValue (word : String)
  deriving DecidableEq, Repr

end SecretScan.Yaml
