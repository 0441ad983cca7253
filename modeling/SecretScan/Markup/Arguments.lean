import SecretScan.Decimal.Reading
import SecretScan.Text.CharNames
import SecretScan.Text.Lines
import SecretScan.Text.WordChar

/-!
# Arguments of actions

The arguments of an action are literals: numbers, strings, constants, and tuples, sets and
dictionaries of literals. There are no lists, since a tag holds no square brackets. The value of a
literal is of no interest, only what decides where it may stand (`Literal`).

`isArguments` reads a whole text. Its depth is bounded by that of the brackets, which may be nested
`ReadLiteral.deepest` levels deep.
-/

namespace SecretScan.Markup

/-- A literal, as far as that decides where it may stand. -/
inductive Literal where
  | number (imaginary signed : Bool)
  /-- Another literal that may be a key or an item of a set. -/
  | frozen
  /-- A literal that may not. -/
  | mutable
  deriving DecidableEq, Repr

/-- May the literal be a key or an item of a set? -/
def Literal.isFrozen : Literal → Bool
  | .mutable => false
  | _ => true

/-- Reading literals from the front of a text. -/
abbrev ReadLiteral := StateT (List Char) Option

namespace ReadLiteral

/-- What follows a gap, of which a comment may have been begun. Within brackets a gap may go over
lines, elsewhere only after a backslash. -/
def afterGap (nested comment : Bool) : List Char → List Char
  | [] => []
  | '\\' :: '\n' :: rest =>
    if comment && !nested then '\n' :: rest else afterGap nested false rest
  | c :: rest =>
    if comment && c != '\n' then afterGap nested true rest
    else if c == ' ' || c == '\t' || c == '\x0c' || (nested && c == '\n') then
      afterGap nested false rest
    else if c == '#' then afterGap nested true rest
    else c :: rest

/-- Goes over a gap. -/
def skipGap (nested : Bool) : ReadLiteral Unit :=
  modify (afterGap nested false)

/-- Takes a sign, and the gap after it, if it comes next. -/
def accept (nested : Bool) (sign : Char) : ReadLiteral Bool := do
  match ← get with
  | c :: rest =>
    if c = sign then
      set rest
      skipGap nested
      return true
    else return false
  | [] => return false

/-! ## Numbers -/

/-- Splits off further digits, with single underscores between them. -/
def moreDigits (isDigit : Char → Bool) : List Char → List Char × List Char
  | [] => ([], [])
  | c :: rest =>
    if isDigit c then
      let (digits, after) := moreDigits isDigit rest
      (c :: digits, after)
    else if c == '_' && rest.head?.any isDigit then moreDigits isDigit rest
    else ([], c :: rest)

/-- Splits off digits. -/
def someDigits (cs : List Char) : List Char × List Char :=
  if cs.head?.any Char.isDigit then moreDigits Char.isDigit cs else ([], cs)

/-- Splits off an exponent; says whether there is one. -/
def exponent (cs : List Char) : Bool × List Char :=
  match cs with
  | c :: rest =>
    let unsigned := if rest.head?.any fun c => c == '+' || c == '-' then rest.drop 1 else rest
    let (digits, after) := someDigits unsigned
    if (c == 'e' || c == 'E') && !digits.isEmpty then (true, after) else (false, cs)
  | [] => (false, [])

/-- May a whole number be written with these digits? -/
def isWhole (digits : List Char) : Bool :=
  digits.all (· == '0') || (digits.head? != some '0' && digits.length ≤ Decimal.maxWholeDigits)

/-- The digits of a base, by the letter after the zero. -/
def digitsOfBase? (letter : Char) : Option (Char → Bool) :=
  match letter.toLower with
  | 'x' => some Text.CharRanges.isHexDigit
  | 'o' => some fun c => '0' ≤ c && c ≤ '7'
  | 'b' => some fun c => c == '0' || c == '1'
  | _ => none

/-- A number in decimal digits. -/
def decimal (cs : List Char) : Option (Literal × List Char) :=
  let (whole, rest) := someDigits cs
  let hasPoint := rest.head? = some '.'
  let (fraction, rest) := if hasPoint then someDigits (rest.drop 1) else ([], rest)
  let (hasExponent, rest) := exponent rest
  if whole.isEmpty && fraction.isEmpty then none
  else if rest.head?.any fun c => c == 'j' || c == 'J' then some (.number true false, rest.drop 1)
  else if hasPoint || hasExponent || isWhole whole then some (.number false false, rest)
  else none

/-- A number. -/
def number : ReadLiteral Literal := fun cs =>
  match cs with
  | '0' :: letter :: rest =>
    match digitsOfBase? letter with
    | some isDigit =>
      let (digits, after) := moreDigits isDigit rest
      if digits.isEmpty then none else some (.number false false, after)
    | none => decimal cs
  | _ => decimal cs

/-! ## Strings -/

/-- What the letters before a string say: is it raw, and is it of bytes? -/
def stringKind? (letters : List Char) : Option (Bool × Bool) :=
  match String.ofList (letters.map Char.toLower) with
  | "" | "u" => some (false, false)
  | "r" => some (true, false)
  | "b" => some (false, true)
  | "br" | "rb" => some (true, true)
  | _ => none

/-- Splits a text at the closing quotes. -/
def untilQuotes (quotes : List Char) : List Char → Option (List Char × List Char)
  | [] => none
  | '\\' :: c :: rest =>
    (untilQuotes quotes rest).map fun (body, after) => ('\\' :: c :: body, after)
  | c :: rest =>
    if quotes.isPrefixOf (c :: rest) then some ([], (c :: rest).drop quotes.length)
    else if c == '\n' && quotes.length == 1 then none
    else (untilQuotes quotes rest).map fun (body, after) => (c :: body, after)

/-- Does a text begin with so many hexadecimal digits, of a number below a bound? -/
def beginsWithHex (count bound : Nat) (cs : List Char) : Bool :=
  let digits := cs.take count
  digits.length == count && digits.all Text.CharRanges.isHexDigit &&
    Text.CharRanges.hexNumber digits < bound

/-- Does a text begin with the name of a character, in braces? -/
def beginsWithName : List Char → Bool
  | '{' :: rest =>
    rest.contains '}' && (Text.codeNamed? (String.ofList (rest.takeWhile (· != '}')))).isSome
  | _ => false

/-- Are the escapes of a string well-formed? -/
def areEscapes (ofBytes : Bool) : List Char → Bool
  | '\\' :: c :: rest =>
    (match c with
      | 'x' => beginsWithHex 2 0x100 rest
      | 'u' => ofBytes || beginsWithHex 4 0x10000 rest
      | 'U' => ofBytes || beginsWithHex 8 0x110000 rest
      | 'N' => ofBytes || beginsWithName rest
      | _ => true) && areEscapes ofBytes rest
  | _ :: rest => areEscapes ofBytes rest
  | [] => true

/-- A string; says whether it is of bytes. -/
def string : ReadLiteral Bool := fun cs => do
  let letters := cs.takeWhile Char.isAlpha
  let (raw, ofBytes) ← stringKind? letters
  let quoted := cs.drop letters.length
  let quote ← quoted.head?
  if quote != '\'' && quote != '"' then none
  else
    let triple := List.replicate 3 quote
    let quotes := if triple.isPrefixOf quoted then triple else [quote]
    let (body, after) ← untilQuotes quotes (quoted.drop quotes.length)
    if (raw || areEscapes ofBytes body) && !(ofBytes && body.any (128 ≤ ·.toNat)) then
      some (ofBytes, after)
    else none

/-- Does a text begin with a string? -/
def beginsString (cs : List Char) : Bool :=
  (cs.dropWhile Char.isAlpha).head?.any fun c => c == '\'' || c == '"'

/-- Strings one after another, all of bytes or none. -/
def moreStrings (nested ofBytes : Bool) : (fuel : Nat) → ReadLiteral Literal
  | 0 => return .frozen
  | fuel + 1 => do
    skipGap nested
    if beginsString (← get) then
      if (← string) = ofBytes then moreStrings nested ofBytes fuel else failure
    else return .frozen

/-- Strings. -/
def strings (nested : Bool) : ReadLiteral Literal := do
  let ofBytes ← string
  moreStrings nested ofBytes (← get).length

/-! ## Literals -/

/-- Items after the first one, up to the closing bracket. -/
def moreItems {α : Type} (nested : Bool) (closing : Char) (item : ReadLiteral α) :
    (fuel : Nat) → ReadLiteral (List α)
  | 0 => failure
  | fuel + 1 => do
    if ← accept nested closing then return []
    if !(← accept true ',') then failure
    if ← accept nested closing then return []
    return (← item) :: (← moreItems nested closing item fuel)

/-- What stands in parentheses. Without a comma they only hold together. -/
def parenthesized (nested : Bool) (inner : ReadLiteral Literal) : ReadLiteral Literal := do
  if ← accept nested ')' then return .frozen
  let first ← inner
  if ← accept nested ')' then return first
  let more ← moreItems nested ')' inner (← get).length
  return if (first :: more).all Literal.isFrozen then .frozen else .mutable

/-- An entry of a dictionary, after its key. -/
def entry (inner : ReadLiteral Literal) (key : Literal) : ReadLiteral Unit := do
  if !(← accept true ':') || !key.isFrozen then failure
  let _ ← inner

/-- A set or a dictionary. -/
def braced (nested : Bool) (inner : ReadLiteral Literal) : ReadLiteral Literal := do
  if ← accept nested '}' then return .mutable
  let first ← inner
  if (← get).head? = some ':' then
    entry inner first
    let _ ← moreItems nested '}' (do entry inner (← inner)) (← get).length
  else
    let more ← moreItems nested '}' inner (← get).length
    if !(first :: more).all Literal.isFrozen then failure
  return .mutable

/-- A name. -/
def named : ReadLiteral Literal := do
  let cs ← get
  let name := cs.takeWhile Text.isWordChar
  set (cs.drop name.length)
  match String.ofList name with
  | "None" | "True" | "False" => return .frozen
  | "set" =>
    skipGap true
    if !(← accept true '(') || (← get).head? != some ')' then failure
    modify (·.drop 1)
    return .mutable
  | _ => failure

/-- A literal without a sign. `inner?` reads one within brackets, if they may be nested deeper. -/
def atom (nested : Bool) (inner? : Option (ReadLiteral Literal)) : ReadLiteral Literal := do
  let cs ← get
  if ← accept true '(' then parenthesized nested (← inner?)
  else if ← accept true '{' then braced nested (← inner?)
  else if beginsString cs then strings nested
  else if cs.take 3 = ['.', '.', '.'] then
    set (cs.drop 3)
    return .frozen
  else if cs.head?.any fun c => c.isDigit || c == '.' then number
  else named

/-- A literal, with a sign if it is a number. -/
def signed (nested : Bool) (inner? : Option (ReadLiteral Literal)) : ReadLiteral Literal := do
  if (← accept nested '+') || (← accept nested '-') then
    match ← atom nested inner? with
    | .number imaginary false => return .number imaginary true
    | _ => failure
  else atom nested inner?

/-- A literal, or the sum of a real and an imaginary number, with the gap after it. -/
def sum (nested : Bool) (inner? : Option (ReadLiteral Literal)) : ReadLiteral Literal := do
  let first ← signed nested inner?
  skipGap nested
  if !(← accept nested '+') && !(← accept nested '-') then return first
  let second ← atom nested inner?
  skipGap nested
  match first, second with
  | .number false _, .number true false => return .frozen
  | _, _ => failure

/-- A literal, with brackets nested at most `room` levels deep. -/
def literal (nested : Bool) : (room : Nat) → ReadLiteral Literal
  | 0 => sum nested none
  | room + 1 => sum nested (some (literal true room))

/-- How deep brackets may be nested. -/
def deepest : Nat := 200

/-- Literals with commas between them, up to the end of a text. -/
def arguments : (fuel : Nat) → ReadLiteral Unit
  | 0 => failure
  | fuel + 1 => do
    let _ ← literal false deepest
    let more ← accept false ','
    if more && !(← get).isEmpty && (← get).head? != some '\n' then arguments fuel
    else
      skipGap true
      if !(← get).isEmpty then failure

end ReadLiteral

/-- Does a line hold no more than a comment or a backslash? -/
def isIdleLine (line : List Char) : Bool :=
  (ReadLiteral.afterGap false false line).isEmpty || line == ['\\']

/-- Are these the arguments of an action? -/
def isArguments (text : List Char) : Bool :=
  let lines := (Text.cutAt '\n' (Text.withLineFeeds text)).dropWhile isIdleLine
  let cs := ['\n'].intercalate lines
  !cs.contains '\x00' && ((ReadLiteral.arguments (cs.length + 1)).run cs).isSome

end SecretScan.Markup
