import SecretScan.Text.Blank
import SecretScan.Text.LetterCase
import SecretScan.Text.WordChar

/-!
# Sets of characters in patterns

The one-character building block of patterns: ranges of code points and properties, possibly
negated, compared exactly or without regard to case. A single character, a set in brackets and
the dot are all values of `CharSet`.
-/

namespace SecretScan.Pattern

open SecretScan.Text

/-- Properties of characters, of any script or of ASCII only. -/
inductive Property where
  | digit | blank | word
  | asciiDigit | asciiBlank | asciiWord
  deriving DecidableEq, Repr

/-- Has the character the property? -/
def Property.holds : Property → Char → Bool
  | .digit, c => isDecimal c
  | .blank, c => isBlank c
  | .word, c => isWordChar c
  | .asciiDigit, c => c.isDigit
  | .asciiBlank, c => isAsciiBlank c
  | .asciiWord, c => c.isAlphanum || c == '_'

/-- What a set lists. -/
inductive SetItem where
  /-- The code points from `first` to `last`. -/
  | range (first last : Nat)
  /-- The characters that have a property, or those that lack it. -/
  | property (p : Property) (negated : Bool)
  deriving DecidableEq, Repr

/-- How characters are compared. -/
inductive Comparison where
  | exact
  | ignoringCase
  | ignoringAsciiCase
  deriving DecidableEq, Repr

/-- The code points that a comparison does not tell from `c`. -/
def Comparison.sameAs : Comparison → Char → List Nat
  | .exact, c => [c.toNat]
  | .ignoringCase, c => relatives c
  | .ignoringAsciiCase, c => if c.isAlpha then [c.toLower.toNat, c.toUpper.toNat] else [c.toNat]

/-- The lower case that back references compare. -/
def Comparison.key : Comparison → Char → Char
  | .exact, c => c
  | .ignoringCase, c => lowerChar c
  | .ignoringAsciiCase, c => c.toLower

/-- Is the character listed? A range lists whatever is not told from one of its code points. -/
def SetItem.lists (comparison : Comparison) : SetItem → Char → Bool
  | .range first last, c => (comparison.sameAs c).any fun n => first ≤ n && n ≤ last
  -- a letter has the properties of its lower case
  | .property p negated, c => p.holds c != negated

/-- A set of characters. -/
structure CharSet where
  items : List SetItem
  negated : Bool := false
  comparison : Comparison := .exact
  deriving DecidableEq, Repr

namespace CharSet

/-- Does the set list the character? -/
def lists (s : CharSet) (c : Char) : Bool :=
  s.items.any (·.lists s.comparison c)

/-- Is the character in the set? -/
def contains (s : CharSet) (c : Char) : Bool :=
  s.lists c != s.negated

/-- The set of one character. -/
def single (c : Char) : CharSet :=
  { items := [.range c.toNat c.toNat] }

/-- Every character. -/
def all : CharSet :=
  { items := [], negated := true }

/-- Every character but the line feed. -/
def notLineFeed : CharSet :=
  { items := [.range 10 10], negated := true }

theorem contains_all (c : Char) : all.contains c = true := by
  simp [contains, lists, all]

end CharSet

end SecretScan.Pattern
