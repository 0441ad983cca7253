import SecretScan.Text.Blank
import SecretScan.Text.Grapheme
import SecretScan.Text.Lines

/-!
# Wrapping text

A text is laid out in lines of a width: it is broken between words, and a word that is longer than
a line is folded where folding is wanted and cut with an ellipsis where it is not.
-/

namespace SecretScan.Text

/-- What happens to a word that is longer than a line. -/
inductive Overflow where
  | fold
  | ellipsis
  deriving DecidableEq, Repr

/-- The words of a text, each with the blanks after it; the first one also has those before it. A
text of blanks has no words. -/
def wordsOf (text : List Char) : List (List Char) :=
  let step := fun (c : Char) (acc : List (List Char)) =>
    match acc with
    | (d :: word) :: words =>
      if isBlank c && !isBlank d then [c] :: (d :: word) :: words
      else (c :: d :: word) :: words
    | _ => [[c]]
  -- blanks at the start go with the first word
  match text.foldr step [] with
  | [] => []
  | first :: rest =>
    if first.all isBlank then
      match rest with
      | [] => []
      | second :: rest => (first ++ second) :: rest
    else first :: rest

/-- Cuts a word into pieces that fit into a width; `line` takes `size` cells. -/
def foldFrom (width size : Nat) (line : List Char) : List Grapheme → List (List Char)
  | [] => [line]
  | g :: rest =>
    if width < size + g.width then line :: foldFrom width g.width g.chars rest
    else foldFrom width (size + g.width) (line ++ g.chars) rest

/-- Cuts a word into pieces that fit into a width. -/
def foldWord (width : Nat) (word : List Char) : List (List Char) :=
  foldFrom width 0 [] (graphemes word)

/-- Lines that are being filled. -/
structure Filling where
  /-- The lines that are finished, the last one first. -/
  done : List (List Char) := []
  line : List Char := []
  /-- How many cells the line takes. -/
  size : Nat := 0

namespace Filling

/-- Has anything been written? -/
def isStarted (f : Filling) : Bool :=
  !(f.done.isEmpty && f.line.isEmpty)

/-- Goes on to a new line, unless nothing has been written. -/
def breakLine (f : Filling) : Filling :=
  if f.isStarted then ⟨f.line :: f.done, [], f.size⟩ else f

/-- Writes on, and sets the size of the line. -/
def write (f : Filling) (cs : List Char) (size : Nat) : Filling :=
  { f with line := f.line ++ cs, size }

/-- Writes a text on a new line. -/
def writeBelow (f : Filling) (cs : List Char) : Filling :=
  f.breakLine.write cs (cells cs)

/-- Adds a word. -/
def addWord (width : Nat) (overflow : Overflow) (f : Filling) (word : List Char) : Filling :=
  let length := cells (trimEndBlanks word)
  if f.size + length ≤ width then f.write word (f.size + cells word)
  else if width < length then
    match overflow with
    | .fold => (foldWord width word).foldl writeBelow f
    | .ellipsis => f.writeBelow word
  else f.writeBelow word

/-- The lines. -/
def lines (f : Filling) : List (List Char) :=
  (f.line :: f.done).reverse

end Filling

/-- Breaks a line of text into lines of a width. -/
def breakLines (width : Nat) (overflow : Overflow) (line : List Char) : List (List Char) :=
  match wordsOf line with
  | [] => [line]
  | words => (words.foldl (Filling.addWord width overflow) {}).lines

/-- Drops blanks at the end of a line that has more characters than wanted, not more of them than
there are too many. -/
def trimExcessBlanks (width : Nat) (line : List Char) : List Char :=
  let blanks := line.length - (trimEndBlanks line).length
  line.take (line.length - min blanks (line.length - width))

/-- Cuts a line to a width. -/
def cutLine (width : Nat) (overflow : Overflow) (line : List Char) : List Char :=
  if cells line ≤ width then line
  else
    match overflow with
    | .fold => fitCells width line
    | .ellipsis => fitCells (width - 1) line ++ ['…']

/-- How far tabulator stops are apart. -/
def tabWidth : Nat := 8

/-- A line with blanks in place of tabulators. -/
def expandTabs (line : List Char) : List Char :=
  let step := fun (written : List Char) (part : List Char) =>
    -- a tabulator takes one cell at least
    let stop := cells written + cells part + 1
    written ++ part ++
      List.replicate (1 + (tabWidth - stop % tabWidth) % tabWidth) ' '
  let parts := cutAt '\t' line
  parts.dropLast.foldl step [] ++ (parts.getLast?.getD [])

/-- Breaks a text into lines. Those that still are too long are not cut yet. -/
def layLines (width : Nat) (overflow : Overflow) (text : List Char) : List (List Char) :=
  (cutAt '\n' text).flatMap fun line =>
    (breakLines width overflow (expandTabs line)).map (trimExcessBlanks width)

/-- Lays out a text in lines of a width. -/
def wrap (width : Nat) (overflow : Overflow) (text : List Char) : List (List Char) :=
  (layLines width overflow text).map (cutLine width overflow)

end SecretScan.Text
