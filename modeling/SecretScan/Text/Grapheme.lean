import SecretScan.Text.CellWidth

/-!
# Graphemes

A terminal draws some characters together: combining marks sit on the character before them, a
joiner glues two pictures into one, and a selector asks for the wide picture of a narrow symbol.
`graphemes` cuts a text into what is drawn together, each with its width in cells.

Main statement: nothing is lost by cutting (`flatten_graphemes`).
-/

namespace SecretScan.Text

/-- Symbols that are narrow by themselves and wide as pictures. -/
def widenedTable : CharRanges := CharRanges.ofText "
   23 2A 30-39 A9 AE 203C 2049 2122 2139 2194-2199 21A9-21AA 2328 23CF 23ED-23EF 23F1-23F2
   23F8-23FA 24C2 25AA-25AB 25B6 25C0 25FB-25FC 2600-2604 260E 2611 2618 261D 2620 2622-2623 2626
   262A 262E-262F 2638-263A 2640 2642 265F-2660 2663 2665-2666 2668 267B 267E 2692 2694-2697 2699
   269B-269C 26A0 26A7 26B0-26B1 26C8 26CF 26D1 26D3 26E9 26F0-26F1 26F4 26F7-26F9 2702 2708-2709
   270C-270D 270F 2712 2714 2716 271D 2721 2733-2734 2744 2747 2763-2764 27A1 2934-2935 2B05-2B07
   1F170-1F171 1F17E-1F17F 1F321 1F324-1F32C 1F336 1F37D 1F396-1F397 1F399-1F39B 1F39E-1F39F
   1F3CB-1F3CE 1F3D4-1F3DF 1F3F3 1F3F5 1F3F7 1F43F 1F441 1F4FD 1F549-1F54A 1F56F-1F570 1F573-1F579
   1F587 1F58A-1F58D 1F590 1F5A5 1F5A8 1F5B1-1F5B2 1F5BC 1F5C2-1F5C4 1F5D1-1F5D3 1F5DC-1F5DE 1F5E1
   1F5E3 1F5E8 1F5EF 1F5F3 1F5FA 1F6CB 1F6CD-1F6CF 1F6E0-1F6E5 1F6E9 1F6F0 1F6F3"

/-- The zero-width joiner. -/
def joiner : Char := Char.ofNat 0x200D

/-- The selector of the wide picture of a symbol. -/
def pictureSelector : Char := Char.ofNat 0xFE0F

/-- Characters that are drawn together, and how many cells they take. -/
structure Grapheme where
  chars : List Char
  width : Nat
  deriving DecidableEq, Repr

/-- How far the cutting of a text has come. -/
structure GraphemeReader where
  /-- What has been cut off, the last grapheme first. -/
  done : List Grapheme := []
  /-- The last character that takes room, if the selector has not widened it yet. -/
  base : Option Char := none
  /-- Does a joiner pull in the next character? -/
  joining : Bool := false

namespace GraphemeReader

/-- Adds a character to the last grapheme and widens it; begins the first one if there is none. -/
def attach (r : GraphemeReader) (c : Char) (widening : Nat) : GraphemeReader :=
  match r.done with
  | [] => { r with done := [⟨[c], 0⟩] }
  | g :: rest => { r with done := ⟨g.chars ++ [c], g.width + widening⟩ :: rest }

/-- Is the last character that takes room one that the selector widens? -/
def canWiden (r : GraphemeReader) : Bool :=
  r.base.any fun c => widenedTable.contains c.toNat

/-- Reads a character. -/
def step (r : GraphemeReader) (c : Char) : GraphemeReader :=
  if r.joining then { r.attach c 0 with joining := false }
  else if c = joiner then { r.attach c 0 with joining := !r.done.isEmpty }
  else if c = pictureSelector then
    if r.canWiden then { r.attach c 1 with base := none } else r.attach c 0
  else if cellWidth c = 0 then r.attach c 0
  else { r with done := ⟨[c], cellWidth c⟩ :: r.done, base := some c }

end GraphemeReader

/-- The graphemes of a text. -/
def graphemes (text : List Char) : List Grapheme :=
  (text.foldl GraphemeReader.step {}).done.reverse

/-- How many terminal cells a text takes. -/
def cells (text : List Char) : Nat :=
  ((graphemes text).map (·.width)).foldr (· + ·) 0

/-- The first graphemes of a text, up to a width. A wide one that would reach beyond it leaves a
blank. -/
def takeCells : Nat → List Grapheme → List Char
  | 0, _ | _, [] => []
  | n, g :: rest => if g.width ≤ n then g.chars ++ takeCells (n - g.width) rest else [' ']

/-- A text cut or filled up with blanks to a width. -/
def fitCells (width : Nat) (text : List Char) : List Char :=
  let taken := cells text
  if taken ≤ width then text ++ List.replicate (width - taken) ' '
  else takeCells width (graphemes text)

/-! ## Nothing is lost -/

theorem GraphemeReader.flatten_attach (r : GraphemeReader) (c : Char) (n : Nat) :
    ((r.attach c n).done.reverse.map Grapheme.chars).flatten =
      (r.done.reverse.map Grapheme.chars).flatten ++ [c] := by
  unfold attach
  split <;> simp_all

theorem GraphemeReader.flatten_step (r : GraphemeReader) (c : Char) :
    ((r.step c).done.reverse.map Grapheme.chars).flatten =
      (r.done.reverse.map Grapheme.chars).flatten ++ [c] := by
  unfold step
  split
  · exact r.flatten_attach c 0
  split
  · exact r.flatten_attach c 0
  split
  · split
    · exact r.flatten_attach c 1
    · exact r.flatten_attach c 0
  split
  · exact r.flatten_attach c 0
  · simp

/-- Nothing is lost by cutting. -/
theorem flatten_graphemes (text : List Char) :
    ((graphemes text).map Grapheme.chars).flatten = text := by
  suffices h : ∀ r : GraphemeReader,
      ((text.foldl GraphemeReader.step r).done.reverse.map Grapheme.chars).flatten =
        (r.done.reverse.map Grapheme.chars).flatten ++ text by
    simpa [graphemes] using h {}
  induction text with
  | nil => simp
  | cons c rest ih =>
    intro r
    rw [List.foldl_cons, ih, r.flatten_step]
    simp

end SecretScan.Text
