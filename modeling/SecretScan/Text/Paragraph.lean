import SecretScan.Text.Blank
import SecretScan.Text.Lines

/-!
# Paragraphs

A paragraph is filled into lines of a width, counted in characters. Lines are broken at blanks and
after hyphens within words; a word longer than a line is cut.
-/

namespace SecretScan.Text

/-- The words of a text. -/
def wordsBetweenBlanks (text : List Char) : List (List Char) :=
  (cutAt ' ' (text.map fun c => if isAsciiBlank c then ' ' else c)).filter (!·.isEmpty)

/-- Is this a letter of ASCII? -/
def isLetter (c : Char) : Bool :=
  c.isAlpha

/-- May a word be broken before `after`, having read `before` backwards? After a hyphen it may, if
two letters stand before the hyphen and two after it. -/
def breaksHere (before after : List Char) : Bool :=
  match before, after with
  | '-' :: b :: a :: _, c :: d :: _ => isLetter a && isLetter b && isLetter c && isLetter d
  | _, _ => false

/-- The parts between which a word may be broken; `read` is the current one, backwards. -/
def hyphenPartsFrom (read : List Char) : List Char → List (List Char)
  | [] => [read.reverse]
  | c :: rest =>
    if breaksHere read (c :: rest) then read.reverse :: hyphenPartsFrom [c] rest
    else hyphenPartsFrom (c :: read) rest

/-- The parts between which a word may be broken. -/
def hyphenParts (word : List Char) : List (List Char) :=
  hyphenPartsFrom [] word

/-- Lines that are being filled; the last one is kept apart. -/
structure Paragraph where
  /-- The lines that are finished, the last one first. -/
  done : List (List Char) := []
  line : List Char := []

namespace Paragraph

/-- Finishes the line. -/
def finish (p : Paragraph) : Paragraph :=
  let line := trimEndBlanks p.line
  ⟨if line.isEmpty then p.done else line :: p.done, []⟩

/-- Writes a part that is longer than a line: as much as there is room for, and the rest on new
lines. `fuel` is more than the length of the part. -/
def writeLong (width : Nat) : (fuel : Nat) → Paragraph → List Char → Paragraph
  | 0, p, _ => p
  | fuel + 1, p, part =>
    if p.line.length + part.length ≤ width then { p with line := p.line ++ part }
    else if part.length ≤ width then { p.finish with line := part }
    else
      let room := width - p.line.length
      let p := { p with line := p.line ++ part.take room }
      writeLong width fuel p.finish (part.drop room)

/-- Writes a part of a word. -/
def write (width : Nat) (p : Paragraph) (part : List Char) : Paragraph :=
  p.writeLong width (part.length + 2) part

/-- Writes a word, with a blank before it unless the line is empty. -/
def writeWord (width : Nat) (p : Paragraph) (word : List Char) : Paragraph :=
  let p :=
    if p.line.isEmpty then p
    else if p.line.length < width then { p with line := p.line ++ [' '] }
    else p.finish
  (hyphenParts word).foldl (write width) p

end Paragraph

/-- The lines of a text filled into a width. -/
def fill (width : Nat) (text : List Char) : List (List Char) :=
  ((wordsBetweenBlanks text).foldl (Paragraph.writeWord width) {}).finish.done.reverse

end SecretScan.Text
