import SecretScan.Decimal.Reading
import SecretScan.Text.Utf8
import SecretScan.Text.Wide
import SecretScan.Yaml.Error

/-!
# Lexemes

The smallest parts of a document: scalars in each of their styles, tags, anchors and directives.
Each reader takes what it can from a `Cursor`, which knows its line and column, and refuses what
has not the form it reads. The cursor also keeps how far the text has been looked at.
-/

namespace SecretScan.Yaml

/-- A place in a text: what follows, and how far it is from the start of the text and of its
line. -/
structure Cursor where
  rest : List Char
  index : Nat := 0
  line : Nat := 0
  column : Nat := 0
  /-- How many characters of the text have been looked at. -/
  seen : Nat := 0

/-- A reader of a part of a document. What it looked at before a fault is kept. -/
abbrev Read := ExceptT Error (StateM Cursor)

/-- Does the character end a line? -/
def isBreak (c : Char) : Bool :=
  c == '\n' || c == '\r' || c == Char.ofNat 0x85 || c == Char.ofNat 0x2028 || c == Char.ofNat 0x2029

/-- Is it a space or a tab? -/
def isGap (c : Char) : Bool :=
  c == ' ' || c == '\t'

/-- Is the character one of these? -/
def isOneOf (signs : String) (c : Char) : Bool :=
  signs.toList.contains c

/-- Is it a character of names? -/
def isNameChar (c : Char) : Bool :=
  c.isAlphanum || c == '-' || c == '_'

/-- Is there no character, or one that ends a line? -/
def endsHere (c : Option Char) : Bool :=
  c.all isBreak

/-- Is there no character, or a space, or one that ends a line? -/
def endsWord (c : Option Char) : Bool :=
  c.all fun c => c == ' ' || isBreak c

/-- Is there no character, or a space, a tab, or one that ends a line? -/
def endsToken (c : Option Char) : Bool :=
  c.all fun c => isGap c || isBreak c

/-- The mark of the byte order, which takes no column. -/
def byteOrderMark : Char :=
  Char.ofNat 0xFEFF

namespace Cursor

/-- The place after the next character. -/
def next (c : Cursor) : Cursor :=
  match c.rest with
  | [] => c
  | x :: rest =>
    -- a carriage return and a line feed end one line
    let ends := isBreak x && !(x == '\r' && rest.head? == some '\n')
    if ends then { c with rest, index := c.index + 1, line := c.line + 1, column := 0 }
    else
      let column := if x == byteOrderMark then c.column else c.column + 1
      { c with rest, index := c.index + 1, column }

/-- The place after some characters. -/
def skip (c : Cursor) : (count : Nat) → Cursor
  | 0 => c
  | n + 1 => c.next.skip n

/-- The same place once the text has been looked at up to the character some places on. -/
def looked (c : Cursor) (ahead : Nat) : Cursor :=
  { c with seen := max c.seen (c.index + ahead + 1) }

/-- Do three dashes or three dots stand here by themselves? -/
def isMarker (c : Cursor) (mark : Char) : Bool :=
  c.rest.take 3 == [mark, mark, mark] && endsToken c.rest[3]?

end Cursor

/-- Refuses the text. -/
def refuse {α : Type} (e : Error := .malformed) : Read α :=
  throw e

/-- Looks at the text up to the character some places on. -/
def look (ahead : Nat) : Read Unit :=
  modify (·.looked ahead)

/-- The character some places on. -/
def peek (ahead : Nat := 0) : Read (Option Char) := do
  look ahead
  return (← get).rest[ahead]?

/-- Skips characters. The one after them is looked at. -/
def skip (count : Nat) : Read Unit :=
  modify fun c => (c.skip count).looked 0

/-- Is there a marker of a document? -/
def atMarker : Read Bool := do
  look 2
  let c ← get
  return c.isMarker '-' || c.isMarker '.'

/-- Takes characters as long as they are of a kind. -/
def takeWhile (p : Char → Bool) : Read (List Char) := do
  let taken := (← get).rest.takeWhile p
  skip taken.length
  return taken

/-- Skips spaces, but not beyond a column. -/
def skipSpacesTo (column : Nat) : Read Unit := do
  look 0
  let c ← get
  let spaces := (c.rest.takeWhile (· == ' ')).length
  skip (min spaces (column - c.column))

/-- Takes the end of a line: nothing if the line goes on. -/
def lineBreak : Read (List Char) := do
  look 0
  match (← get).rest with
  | '\r' :: '\n' :: _ => skip 2; return ['\n']
  | c :: _ =>
    if c == '\r' || c == '\n' || c == Char.ofNat 0x85 then skip 1; return ['\n']
    else if isBreak c then skip 1; return [c]
    else return []
  | [] => return []

/-- Skips to the end of the line, which may hold a comment only. -/
def skipRestOfLine : Read Unit := do
  let _ ← takeWhile (· == ' ')
  if (← peek) == some '#' then
    let _ ← takeWhile (!isBreak ·)
  if endsHere (← peek) then
    let _ ← lineBreak
  else refuse

/-! ## Names, tags and directives -/

/-- Takes a name that is not empty. -/
def name : Read String := do
  let taken ← takeWhile isNameChar
  if taken.isEmpty then refuse
  return String.ofList taken

/-- Takes the name of an anchor or an alias, with the sign before it. -/
def anchorName : Read String := do
  skip 1
  let n ← name
  let c ← peek
  if endsToken c || c.any (isOneOf "?:,]\x7d%@\x60") then return n else refuse

/-- Takes a decimal number. -/
def versionNumber : Read Nat := do
  let ds ← takeWhile Char.isDigit
  if ds.isEmpty then refuse
  if Decimal.maxWholeDigits < ds.length then refuse .invalidNumber
  return Decimal.digitsValue ds

/-- The bytes of escaped characters, two hexadecimal digits each. -/
def escapedBytes : List Char → Except Error (List UInt8 × Nat)
  | '%' :: a :: b :: rest => do
    let some n := Decimal.valueInBase? 16 [a, b] | throw .malformed
    let (bytes, taken) ← escapedBytes rest
    return (UInt8.ofNat n :: bytes, taken + 3)
  | '%' :: _ => throw .malformed
  | _ => return ([], 0)

/-- May the character stand in the name of a tag? -/
def isTagChar (c : Char) : Bool :=
  c.isAlphanum || isOneOf "-;/?:@&=+$,_.!~*'()[]%" c

/-- Takes what is left of the name of a tag. -/
def tagChars : (fuel : Nat) → Read (List Char)
  | 0 => return []
  | fuel + 1 => do
    let plain ← takeWhile fun c => isTagChar c && c != '%'
    if (← peek) == some '%' then
      let (bytes, taken) ← escapedBytes (← get).rest
      match Text.Utf8.decode? bytes with
      | none => refuse
      | some cs =>
        skip taken
        return plain ++ cs ++ (← tagChars fuel)
    else return plain

/-- Takes the name of a tag. -/
def tagName : Read String := do
  let cs ← tagChars (← get).rest.length
  if cs.isEmpty then refuse
  return String.ofList cs

/-- Takes the handle of a tag: an exclamation mark, or a name between two of them. -/
def tagHandle : Read String := do
  if (← peek) != some '!' then refuse
  skip 1
  if (← peek) == some ' ' then return "!"
  let n ← takeWhile isNameChar
  if (← peek) != some '!' then refuse
  skip 1
  return String.ofList ('!' :: n ++ ['!'])

/-- Takes a tag: its handle, if it has one, and its name. -/
def tag : Read (Option String × String) := do
  let second ← peek 1
  let read ←
    if second == some '<' then do
      skip 2
      let n ← tagName
      if (← peek) != some '>' then refuse
      skip 1
      pure (none, n)
    else if endsToken second then do
      skip 1
      pure (none, "!")
    else do
      let word := ((← get).rest.drop 1).takeWhile fun c => !(c == ' ' || isBreak c)
      look (min (word.length + 1) ((word.takeWhile (· != '!')).length + 1))
      if word.contains '!' then
        let handle ← tagHandle
        pure (some handle, ← tagName)
      else
        skip 1
        pure (some "!", ← tagName)
  if endsWord (← peek) then return read else refuse

/-- What a directive says. -/
inductive Directive where
  | version (major : Nat)
  | tagHandle (handle start : String)
  | other
  deriving DecidableEq

/-- Takes a directive, with the rest of its line. -/
def directive : Read Directive := do
  skip 1
  let n ← name
  if !endsWord (← peek) then refuse
  let d ←
    if n == "YAML" then do
      let _ ← takeWhile (· == ' ')
      let major ← versionNumber
      if (← peek) != some '.' then refuse
      skip 1
      let _ ← versionNumber
      if !endsWord (← peek) then refuse
      pure (Directive.version major)
    else if n == "TAG" then do
      let _ ← takeWhile (· == ' ')
      let handle ← tagHandle
      if (← peek) != some ' ' then refuse
      let _ ← takeWhile (· == ' ')
      let start ← tagName
      if !endsWord (← peek) then refuse
      pure (Directive.tagHandle handle start)
    else do
      let _ ← takeWhile (!isBreak ·)
      pure Directive.other
  skipRestOfLine
  return d

/-! ## Plain scalars -/

/-- May the character not stand in a plain scalar within brackets? -/
def isFlowSign (c : Char) : Bool :=
  c == ',' || c == '[' || c == ']' || c == '\x7b' || c == '\x7d'

/-- Does a colon before this character end a plain scalar? -/
def endsPlainKey (flow : Bool) (c : Option Char) : Bool :=
  endsToken c || (flow && c.any isFlowSign)

/-- The characters up to a blank, or to a sign that ends a plain scalar. -/
def plainWord (flow : Bool) : List Char → List Char
  | [] => []
  | c :: rest =>
    if isGap c || isBreak c || (c == ':' && endsPlainKey flow rest.head?) ||
        (flow && (isFlowSign c || c == '?')) then []
    else c :: plainWord flow rest

/-- Can a plain scalar start here? -/
def startsPlain (flow : Bool) (c next : Option Char) : Bool :=
  match c with
  | none => false
  | some c =>
    !(isGap c || isBreak c || isOneOf "-?:,[]\x7b\x7d#&*!|>'\"%@\x60" c) ||
      (!endsToken next && (c == '-' || (!flow && (c == '?' || c == ':'))))

/-- Takes the empty lines after a line, and the blanks before the next one; none if a marker of
a document follows. -/
def plainBreaks : (fuel : Nat) → Read (Option (List Char))
  | 0 => return some []
  | fuel + 1 => do
    if ← atMarker then return none
    let _ ← takeWhile (· == ' ')
    let b ← lineBreak
    if b.isEmpty then return some []
    else
      match ← plainBreaks fuel with
      | none => return none
      | some rest => return some (b ++ rest)

/-- How line ends within a scalar read: one of them as a space, more of them as one less. -/
def folded (first : List Char) (others : List Char) : List Char :=
  if first != ['\n'] then first ++ others
  else if others.isEmpty then [' ']
  else others

/-- Takes the blanks after a word of a plain scalar: how they read within the scalar, and whether
a line ends among them. -/
def plainSpaces : Read (List Char × Bool) := do
  let spaces ← takeWhile (· == ' ')
  let b ← lineBreak
  if b.isEmpty then return (spaces, false)
  else
    match ← plainBreaks (← get).rest.length with
    | none => return ([], true)
    | some breaks => return (folded b breaks, true)

/-- Takes the words of a plain scalar; `before` is what stands between it and the last one. -/
def plainWords (flow : Bool) (indent : Int) (before : List Char × Bool) :
    (fuel : Nat) → Read (List Char × Bool)
  | 0 => return ([], before.2)
  | fuel + 1 => do
    let word := plainWord flow (← get).rest
    if (← peek) == some '#' || word.isEmpty then return ([], before.2)
    skip word.length
    let after ← plainSpaces
    let column := Int.ofNat (← get).column
    -- no blanks, a comment, or a line that is not indented enough ends the scalar
    if after.1.isEmpty || (← peek) == some '#' || (!flow && column < indent) then
      return (before.1 ++ word, after.2)
    let (more, broken) ← plainWords flow indent after fuel
    return (before.1 ++ word ++ more, broken)

/-- Takes a plain scalar. The second part tells whether a line ended after it. -/
def plainScalar (flow : Bool) (indent : Int) : Read (String × Bool) := do
  let (cs, broken) ← plainWords flow indent ([], false) (← get).rest.length
  return (String.ofList cs, broken)

/-! ## Quoted scalars -/

/-- The character that a letter after a backslash stands for. -/
def escapedChar? (c : Char) : Option Nat :=
  ([('0', 0), ('a', 7), ('b', 8), ('t', 9), ('\t', 9), ('n', 10), ('v', 11), ('f', 12), ('r', 13),
    ('e', 27), (' ', 32), ('"', 34), ('\\', 92), ('/', 47), ('N', 0x85), ('_', 0xA0),
    ('L', 0x2028), ('P', 0x2029)] : List (Char × Nat)).lookup c

/-- How many digits follow a letter after a backslash. -/
def escapeDigits? (c : Char) : Option Nat :=
  ([('x', 2), ('u', 4), ('U', 8)] : List (Char × Nat)).lookup c

/-- The code point of a number. -/
def codePointOf (n : Nat) : Except Error Text.CodePoint :=
  if 0x7FFFFFFF < n then .error .characterTooLarge
  else if 0x10FFFF < n then .error .noSuchCharacter
  else .ok (.ofNumber n)

/-- Characters as code points. -/
def plainPoints (cs : List Char) : List Text.CodePoint :=
  cs.map .char

/-- Takes the empty lines within a quoted scalar, and the blanks before the next one. -/
def quotedBreaks : (fuel : Nat) → Read (List Char)
  | 0 => return []
  | fuel + 1 => do
    if ← atMarker then refuse
    let _ ← takeWhile isGap
    let b ← lineBreak
    if b.isEmpty then return [] else return b ++ (← quotedBreaks fuel)

/-- Takes what follows a backslash. -/
def escape : Read (List Text.CodePoint) := do
  let some c ← peek | refuse
  if let some n := escapedChar? c then
    skip 1
    return [.char (Char.ofNat n)]
  else if let some count := escapeDigits? c then
    skip 1
    let ds := (← get).rest.take count
    look (min (ds.takeWhile fun d => (Decimal.valueInBase? 16 [d]).isSome).length (count - 1))
    match Decimal.valueInBase? 16 ds with
    | some n =>
      if ds.length < count then refuse
      let p ← codePointOf n
      skip count
      return [p]
    | none => refuse
  else
    let b ← lineBreak
    if b.isEmpty then refuse else return plainPoints (← quotedBreaks (← get).rest.length)

/-- Takes blanks within a quoted scalar. -/
def quotedSpaces : Read (List Char) := do
  let spaces ← takeWhile isGap
  if (← peek).isNone then refuse
  let b ← lineBreak
  if b.isEmpty then return spaces
  else return folded b (← quotedBreaks (← get).rest.length)

/-- Takes a quoted scalar up to its closing quote. -/
def quotedRest (quote : Char) : (fuel : Nat) → Read (List Text.CodePoint)
  | 0 => refuse
  | fuel + 1 => do
    let some c ← peek | refuse
    let double := quote == '"'
    if c == quote then
      if !double && (← peek 1) == some quote then
        skip 2
        return .char quote :: (← quotedRest quote fuel)
      else
        skip 1
        return []
    else
      let taken ←
        if isGap c || isBreak c then do
          pure (plainPoints (← quotedSpaces))
        else if double && c == '\\' then do
          skip 1
          escape
        else do
          skip 1
          pure [.char c]
      return taken ++ (← quotedRest quote fuel)

/-- Takes a scalar between quotes. -/
def quotedScalar : Read Text.Wide := do
  let some quote ← peek | refuse
  skip 1
  return .ofCodePoints (← quotedRest quote ((← get).rest.length + 1))

/-! ## Block scalars -/

/-- What becomes of the line ends after a block scalar. -/
inductive Chomping where
  | strip
  | clip
  | keep
  deriving DecidableEq

/-- Takes a sign of chomping. -/
def chomping? : Read (Option Chomping) := do
  match ← peek with
  | some '+' => skip 1; return some .keep
  | some '-' => skip 1; return some .strip
  | _ => return none

/-- Takes a digit of indentation, which is not zero. -/
def indentation? : Read (Option Nat) := do
  match ← peek with
  | some c =>
    if c == '0' then refuse
    else if c.isDigit then
      skip 1
      return some (c.toNat - 48)
    else return none
  | none => return none

/-- Takes the signs at the start of a block scalar: chomping and indentation, in any order. -/
def blockHeader : Read (Chomping × Option Nat) := do
  match ← chomping? with
  | some chomping => return (chomping, ← indentation?)
  | none =>
    match ← indentation? with
    | some n => return ((← chomping?).getD .clip, some n)
    | none => return (.clip, none)

/-- Takes the empty lines before a line of a block scalar, and its indentation. -/
def blockBreaks (indent : Nat) : (fuel : Nat) → Read (List Char)
  | 0 => return []
  | fuel + 1 => do
    skipSpacesTo indent
    let b ← lineBreak
    if b.isEmpty then return [] else return b ++ (← blockBreaks indent fuel)

/-- Takes the empty lines at the start of a block scalar; tells also how far the blanks on them
and before the first line reach. -/
def blockStart (widest : Nat) : (fuel : Nat) → Read (List Char × Nat)
  | 0 => return ([], widest)
  | fuel + 1 => do
    let _ ← takeWhile (· == ' ')
    let widest := max widest (← get).column
    let b ← lineBreak
    if b.isEmpty then return ([], widest)
    let (more, widest) ← blockStart widest fuel
    return (b ++ more, widest)

/-- A block scalar as it is read: its text, the end of its last line, and the empty lines after. -/
structure Block where
  text : List Char
  lastBreak : List Char
  breaks : List Char

/-- Takes the lines of a block scalar. -/
def blockLines (fold : Bool) (indent : Nat) (read : Block) : (fuel : Nat) → Read Block
  | 0 => return read
  | fuel + 1 => do
    let first ← peek
    if (← get).column != indent || first.isNone then return read
    let line ← takeWhile (!isBreak ·)
    let b ← lineBreak
    let breaks ← blockBreaks indent (← get).rest.length
    let text := read.text ++ read.breaks ++ line
    let next ← peek
    if (← get).column != indent || next.isNone then return ⟨text, b, breaks⟩
    -- a line end folds unless the lines on either side are indented further
    let joint :=
      if fold && b == ['\n'] && !first.any isGap && !next.any isGap then
        (if breaks.isEmpty then [' '] else [])
      else b
    blockLines fold indent ⟨text ++ joint, b, breaks⟩ fuel

/-- Takes a block scalar; `parent` is the indentation of the block that it stands in. -/
def blockScalar (parent : Int) : Read String := do
  let fold := (← peek) == some '>'
  skip 1
  let (chomping, increment) ← blockHeader
  if !endsWord (← peek) then refuse
  skipRestOfLine
  let least := (max 1 (parent + 1)).toNat
  let fuel := (← get).rest.length + 1
  let (breaks, indent) ← match increment with
    | none => do
      let (breaks, widest) ← blockStart 0 fuel
      pure (breaks, max least widest)
    | some n => do
      let indent := least + n - 1
      pure (← blockBreaks indent fuel, indent)
  let block ← blockLines fold indent ⟨[], [], breaks⟩ fuel
  let ending := match chomping with
    | .strip => []
    | .clip => block.lastBreak
    | .keep => block.lastBreak ++ block.breaks
  return String.ofList (block.text ++ ending)

end SecretScan.Yaml
