import SecretScan.Markup.Arguments
import SecretScan.Markup.Emoji
import SecretScan.Markup.Style
import SecretScan.Text.Occurrence
import SecretScan.Text.WordChar

/-!
# Markup

Cells of a table may hold tags in square brackets: `[bold]` opens a style, `[/bold]` closes it, and
`[/]` closes the one opened last. A tag begins with a lower-case letter or one of `#`, `/`, `@`;
other brackets are text. Of the backslashes before a tag each pair stands for one, and an odd one
makes the tag text. Names between colons stand for emoji.

Only the text is of interest here (`Markup.plain`): styles are not shown, but a tag that closes what
is not open is an error. So is an action, a tag whose name begins with `@`, if its arguments cannot
be read when it is closed. What can be read is decided by `isArguments`, for which another reader
may stand.
-/

namespace SecretScan.Markup

/-- Why a text is no markup. -/
inductive Error where
  /-- A tag closes the style opened last, and none is open. -/
  | nothingOpen
  /-- A tag closes a style that is not open. -/
  | notOpen (name : List Char)
  /-- The arguments of an action cannot be read. -/
  | malformedAction (value : List Char)
  deriving DecidableEq, Repr

/-- A tag, with what stands in it after an equals sign. -/
structure Tag where
  name : List Char
  value : Option (List Char) := none
  deriving DecidableEq, Repr

/-- A piece of markup. -/
inductive Piece where
  | text (cs : List Char)
  | tag (t : Tag)
  deriving DecidableEq, Repr

/-- Can a tag begin with this character? -/
def startsTag (c : Char) : Bool :=
  ('a' ≤ c && c ≤ 'z') || c == '#' || c == '/' || c == '@'

/-- Is the character neither of the square brackets? -/
def isPlain (c : Char) : Bool :=
  c != '[' && c != ']'

/-- What stands in a tag whose opening bracket has been read, and what follows the tag. -/
def tagBody? : List Char → Option (List Char × List Char)
  | c :: rest =>
    if startsTag c then
      match rest.dropWhile isPlain with
      | ']' :: after => some (c :: rest.takeWhile isPlain, after)
      | _ => none
    else none
  | [] => none

theorem length_of_tagBody? {cs body after : List Char} (h : tagBody? cs = some (body, after)) :
    after.length < cs.length := by
  unfold tagBody? at h
  split at h
  · next c rest =>
    split at h
    · split at h
      · next tail htail =>
        simp only [Option.some.injEq, Prod.mk.injEq] at h
        have hle := (List.dropWhile_sublist isPlain (l := rest)).length_le
        rw [htail] at hle
        simp only [List.length_cons] at hle ⊢
        rw [← h.2]
        omega
      · simp at h
    · simp at h
  · simp at h

/-- The tag with this body. -/
def Tag.ofBody (body : List Char) : Tag :=
  ⟨body.takeWhile (· != '='),
    match body.dropWhile (· != '=') with
    | [] => none
    | _ :: value => some value⟩

/-- A piece of text, unless it is empty. -/
def textPiece (cs : List Char) : List Piece :=
  if cs.isEmpty then [] else [.text cs]

/-- Backslashes. -/
def backslashes (n : Nat) : List Char :=
  List.replicate n '\\'

/-- The pieces of a markup. `before` is the text read since the last tag, backwards, and `slashes`
counts the backslashes after it. -/
def piecesFrom (before : List Char) (slashes : Nat) (cs : List Char) : List Piece :=
  match cs with
  | [] => textPiece (before.reverse ++ backslashes slashes)
  | c :: rest =>
    if c = '\\' then piecesFrom before (slashes + 1) rest
    else if c = '[' then
      match h : tagBody? rest with
      | some (body, after) =>
        have : after.length < rest.length := length_of_tagBody? h
        textPiece before.reverse ++ textPiece (backslashes (slashes / 2)) ++
          [if slashes % 2 = 1 then .text ('[' :: body ++ [']']) else .tag (.ofBody body)] ++
          piecesFrom [] 0 after
      | none => piecesFrom (c :: backslashes slashes ++ before) 0 rest
    else piecesFrom (c :: backslashes slashes ++ before) 0 rest
termination_by cs.length

/-- The pieces of a markup. -/
def pieces (markup : List Char) : List Piece :=
  piecesFrom [] 0 markup

/-- Is this a control character that is not printed? -/
def isDropped (c : Char) : Bool :=
  let n := c.toNat
  n == 7 || n == 8 || (11 ≤ n && n ≤ 13)

/-- What is printed of a text outside markup. -/
def printed (cs : List Char) : List Char :=
  cs.filter (!isDropped ·)

/-- What is printed of a piece of text: a backslash before a bracket is not, and names between
colons are shown as emoji. -/
def pieceText (cs : List Char) : List Char :=
  printed (withEmoji (Text.replace ['\\', '['] ['['] cs))

/-- The arguments of an action. Its value is a call, a name with arguments in parentheses or without
any; otherwise the whole value is arguments. -/
def argumentsOf (value : List Char) : List Char :=
  let call := Style.trimmed value
  match call.dropWhile fun c => Text.isWordChar c || c == '.' with
  | [] => ['(', ')']
  | '(' :: rest => if rest.getLast? = some ')' && !rest.contains '\n' then '(' :: rest else call
  | _ => call

/-- A text being printed, and the styles that are open, the last one first. -/
structure Printing where
  text : List Char := []
  opened : List Tag := []

namespace Printing

variable (reads : List Char → Bool)

/-- Closes a style that is open. Only now are the arguments of an action read. -/
def close (p : Printing) (t : Tag) : Except Error Printing :=
  match t.value with
  | some value =>
    if t.name.head? = some '@' && !value.isEmpty && !reads (argumentsOf value) then
      .error (.malformedAction value)
    else .ok { p with opened := p.opened.erase t }
  | none => .ok { p with opened := p.opened.erase t }

/-- Goes through a piece. -/
def step (p : Printing) : Piece → Except Error Printing
  | .text cs => .ok { p with text := p.text ++ pieceText cs }
  | .tag ⟨'/' :: rest, _⟩ =>
    let name := Style.trimmed rest
    if name.isEmpty then
      match p.opened with
      | t :: _ => p.close reads t
      | [] => .error .nothingOpen
    else
      match p.opened.find? (·.name == Style.normalForm name) with
      | some t => p.close reads t
      | none => .error (.notOpen name)
  | .tag t => .ok { p with opened := ⟨Style.normalForm t.name, t.value⟩ :: p.opened }

end Printing

/-- The text of a markup, where these arguments of actions can be read. -/
def plain (markup : List Char) (reads : List Char → Bool := isArguments) :
    Except Error (List Char) :=
  Printing.text <$> (pieces markup).foldlM (Printing.step reads) ({} : Printing)

end SecretScan.Markup
