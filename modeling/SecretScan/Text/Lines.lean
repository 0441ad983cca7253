/-!
# Lines

Three ways to cut a text into lines. `lines` is the one for scanned text: a line feed ends a line,
together with a carriage return right before it, and what follows the last line feed is a line
too. `allLines` cuts at every line boundary Unicode knows and has no line after the last one.
`withLineFeeds` writes every end of line as a line feed.

Main statement: joining the pieces of `cutAt` gives the text back (`intercalate_cutAt`).
-/

namespace SecretScan.Text

/-- Cuts a text at each occurrence of a character. There is always a first piece. -/
def cutAt (sep : Char) (text : List Char) : List (List Char) :=
  text.foldr (fun c acc =>
    if c == sep then [] :: acc
    else match acc with
      | [] => [[c]]
      | l :: ls => (c :: l) :: ls) [[]]

/-- A line without the carriage return at its end. -/
def dropReturn (line : List Char) : List Char :=
  if line.getLast? = some '\r' then line.dropLast else line

/-- Drops the carriage return from every line but the last, which no line feed ends. -/
def dropReturns : List (List Char) → List (List Char)
  | [] => []
  | [last] => [last]
  | line :: next :: rest => dropReturn line :: dropReturns (next :: rest)

/-- The lines of a scanned text. -/
def lines (text : List Char) : List (List Char) :=
  dropReturns (cutAt '\n' text)

/-- Is this a character that ends a line on its own? -/
def endsLine (c : Char) : Bool :=
  let n := c.toNat
  (10 ≤ n && n ≤ 13) || (28 ≤ n && n ≤ 30) || n == 0x85 || n == 0x2028 || n == 0x2029

/-- The lines of a text by every boundary Unicode knows; `current` is the line being read, in
reverse. -/
def allLinesFrom (current : List Char) : List Char → List (List Char)
  | [] => if current.isEmpty then [] else [current.reverse]
  | '\r' :: '\n' :: rest => current.reverse :: allLinesFrom [] rest
  | c :: rest =>
    if endsLine c then current.reverse :: allLinesFrom [] rest
    else allLinesFrom (c :: current) rest

/-- The lines of a text by every boundary Unicode knows. -/
def allLines (text : List Char) : List (List Char) :=
  allLinesFrom [] text

/-- The text with a line feed for each carriage return, alone or together with the line feed after
it. -/
def withLineFeeds : List Char → List Char
  | [] => []
  | '\r' :: '\n' :: rest => '\n' :: withLineFeeds rest
  | c :: rest => (if c == '\r' then '\n' else c) :: withLineFeeds rest

theorem cutAt_ne_nil (sep : Char) (text : List Char) : cutAt sep text ≠ [] := by
  induction text with
  | nil => simp [cutAt]
  | cons c cs ih =>
    unfold cutAt at ih ⊢
    rw [List.foldr_cons]
    split
    · simp
    · split <;> simp

/-- Nothing is lost by cutting. -/
theorem intercalate_cutAt (sep : Char) (text : List Char) :
    [sep].intercalate (cutAt sep text) = text := by
  induction text with
  | nil => rfl
  | cons c cs ih =>
    have hne := cutAt_ne_nil sep cs
    rw [show cutAt sep (c :: cs) = (if c == sep then [] :: cutAt sep cs
      else match cutAt sep cs with
        | [] => [[c]]
        | l :: ls => (c :: l) :: ls) from rfl]
    cases hcut : cutAt sep cs with
    | nil => exact absurd hcut hne
    | cons l ls =>
      rw [hcut] at ih
      by_cases hc : c = sep
      · subst hc
        simp only [beq_self_eq_true, if_true]
        rw [← ih]
        rfl
      · simp only [beq_iff_eq, hc, if_false]
        rw [← ih]
        cases ls <;> rfl

end SecretScan.Text
