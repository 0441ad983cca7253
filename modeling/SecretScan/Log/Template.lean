import SecretScan.Decimal.Scientific
import SecretScan.Value

/-!
# Templates

The message of a log record can be a template with markers for values: a percent sign, an optional
key in parentheses, flags, a width, a precision, and a letter that says how the value is written.
Two percent signs stand for one. Without values a template is taken as it is; with values each
marker takes the next one, and none may be left over. A mapping gives its values by key.
-/

namespace SecretScan

namespace Template

/-- Why a template cannot be filled in. -/
inductive Error where
  | notEnoughValues
  | leftOverValues
  /-- A key stands where the values are no mapping. -/
  | notMapping
  | noSuchKey (key : String)
  /-- A value is not of the type that its marker asks for. -/
  | wrongType
  | unfinishedMarker
  | unknownLetter (letter : Char)
  | notANumber
  | infinite
  | noSuchCharacter
  deriving DecidableEq, Repr

/-- A width or a precision. -/
inductive Measure where
  | absent
  | given (n : Nat)
  /-- The next value is the measure. -/
  | fromValue
  deriving DecidableEq, Repr

/-- The key of a marker. -/
inductive Key where
  | absent
  | named (name : List Char)
  | unclosed
  deriving DecidableEq, Repr

/-- A marker for a value. -/
structure Marker where
  key : Key := .absent
  flags : List Char := []
  width : Measure := .absent
  precision : Measure := .absent
  /-- Absent where the template ends before it. -/
  letter : Option Char := none
  deriving Repr

/-- Splits off a key; `depth` counts the open parentheses. -/
def keyFrom (depth : Nat) (read : List Char) : List Char → Option (List Char × List Char)
  | [] => none
  | ')' :: rest =>
    if depth == 0 then some (read.reverse, rest) else keyFrom (depth - 1) (')' :: read) rest
  | '(' :: rest => keyFrom (depth + 1) ('(' :: read) rest
  | c :: rest => keyFrom depth (c :: read) rest

/-- Is the character a flag? -/
def isFlag (c : Char) : Bool :=
  c == '-' || c == '+' || c == ' ' || c == '#' || c == '0'

/-- Splits off a measure. -/
def measureFrom : List Char → Measure × List Char
  | '*' :: rest => (.fromValue, rest)
  | cs =>
    let ds := cs.takeWhile Char.isDigit
    (if ds.isEmpty then .absent else .given (Decimal.digitsValue ds), cs.dropWhile Char.isDigit)

/-- Splits off a precision; a lone point means none at all. -/
def precisionFrom : List Char → Measure × List Char
  | '.' :: rest =>
    let (p, rest) := measureFrom rest
    (if p = .absent then .given 0 else p, rest)
  | cs => (.absent, cs)

/-- Drops a letter that tells the size of a number; it has no meaning here. -/
def withoutSize : List Char → List Char
  | c :: rest => if c == 'h' || c == 'l' || c == 'L' then rest else c :: rest
  | [] => []

/-- Splits off a marker after its percent sign and its key. -/
def markerAfter (key : Key) (cs : List Char) : Marker × List Char :=
  let flags := cs.takeWhile isFlag
  let (width, cs) := measureFrom (cs.dropWhile isFlag)
  let (precision, cs) := precisionFrom cs
  let cs := withoutSize cs
  (⟨key, flags, width, precision, cs.head?⟩, cs.tail)

/-- Splits off a marker after its percent sign. -/
def markerFrom (cs : List Char) : Marker × List Char :=
  match cs with
  | '(' :: rest =>
    match keyFrom 0 [] rest with
    | some (name, rest) => markerAfter (.named name) rest
    | none => (⟨.unclosed, [], .absent, .absent, none⟩, [])
  | cs => markerAfter .absent cs

/-- A piece of a template. -/
inductive Piece where
  | char (c : Char)
  | marker (m : Marker)

/-- The pieces of a template; `fuel` is at least its length. -/
def piecesFrom : (fuel : Nat) → List Char → List Piece
  | 0, _ | _, [] => []
  | fuel + 1, '%' :: '%' :: rest => .char '%' :: piecesFrom fuel rest
  | fuel + 1, '%' :: rest =>
    let (m, rest) := markerFrom rest
    .marker m :: piecesFrom fuel rest
  | fuel + 1, c :: rest => .char c :: piecesFrom fuel rest

/-- The pieces of a template. -/
def pieces (template : List Char) : List Piece :=
  piecesFrom template.length template

/-- The values that are still to be filled in. -/
structure Supply where
  entries : Option (List (Value × Value)) := none
  values : List Value

namespace Supply

/-- A single mapping that is not empty gives its values by key. -/
def ofValues : List Value → Supply
  | [.mapping (entry :: rest)] => ⟨some (entry :: rest), [.mapping (entry :: rest)]⟩
  | values => ⟨none, values⟩

/-- Takes the next value. -/
def next (s : Supply) : Except Error (Value × Supply) :=
  match s.values with
  | v :: rest => .ok (v, { s with values := rest })
  | [] => .error .notEnoughValues

/-- Makes the value of a key the next one. -/
def select (s : Supply) (key : Key) : Except Error Supply :=
  match key, s.entries with
  | .absent, _ => .ok s
  | _, none => .error .notMapping
  | .unclosed, some _ => .error .unfinishedMarker
  | .named name, some entries =>
    let name := String.ofList name
    match entries.find? fun e => e.1.same (.text name) with
    | some (_, v) => .ok { s with values := [v] }
    | none => .error (.noSuchKey name)

/-- Takes a measure from the values, if it is to be taken from there. -/
def measure (s : Supply) : Measure → Except Error (Option Int × Supply)
  | .absent => .ok (none, s)
  | .given n => .ok (some n, s)
  | .fromValue => do
    match ← s.next with
    | (.int n, s) => return (some n, s)
    | (.bool b, s) => return (some (if b then 1 else 0), s)
    | _ => throw .wrongType

end Supply

/-- A value as it is written, before it is widened. Only numbers have a sign and can be filled up
with zeros. -/
structure Written where
  sign : List Char := []
  /-- The mark of a base, which goes before the zeros. -/
  mark : List Char := []
  body : List Char
  isNumber : Bool := false

/-- A whole number from a value; a fraction is cut off where this is allowed. -/
def wholeOf (cutting : Bool) : Value → Except Error Int
  | .int n => .ok n
  | .bool b => .ok (if b then 1 else 0)
  | .float x =>
    if !cutting then .error .wrongType
    else
      match Decimal.BinaryFraction.ofFloat? x with
      | some f => .ok f.truncated
      | none => .error (if x.isNaN then .notANumber else .infinite)
  | _ => .error .wrongType

/-- A number in front of which a sign may stand. -/
def signed (flags : List Char) (negative : Bool) (mark body : List Char) : Written :=
  { sign :=
      if negative then ['-']
      else if flags.contains '+' then ['+']
      else if flags.contains ' ' then [' '] else []
    mark
    body
    isNumber := true }

/-- Writes a whole number with at least so many digits. -/
def writeWhole (flags : List Char) (base digits : Nat) (mark : List Char) (n : Int) : Written :=
  let ds := Nat.toDigits base n.natAbs
  signed flags (n < 0) (if flags.contains '#' then mark else [])
    (List.replicate (digits - ds.length) '0' ++ ds)

/-- A point after the digits of a number that has none. -/
def withPoint (cs : List Char) : List Char :=
  let ds := cs.takeWhile Char.isDigit
  match cs.dropWhile Char.isDigit with
  | '.' :: rest => ds ++ '.' :: rest
  | rest => ds ++ '.' :: rest

/-- Writes a number with a point: `f`, `e` or `g`. -/
def writeFloat (flags : List Char) (places : Nat) (letter : Char) (x : Float) : Written :=
  match Decimal.BinaryFraction.ofFloat? x with
  | none => signed flags (x < 0) [] (if x.isNaN then "nan".toList else "inf".toList)
  | some f =>
    let magnitude := { f with negative := false }
    let body :=
      if letter == 'f' then magnitude.fixed places
      else if letter == 'e' then magnitude.scientific places
      else magnitude.general places (flags.contains '#')
    signed flags f.negative [] (if flags.contains '#' then withPoint body else body)

/-- Writes a character: a text of one, or the number of one. -/
def writeChar : Value → Except Error Written
  | .text s =>
    match s.codePoints with
    | [p] => .ok { body := [p.shown] }
    | _ => .error .wrongType
  | v => do
    let n ← wholeOf false v
    if 0 ≤ n && n < 0x110000 then return { body := [Char.ofNat n.toNat] }
    else throw .noSuchCharacter

/-- A text in which every character beyond ASCII is escaped. -/
def asciiOnly (cs : List Char) : List Char :=
  cs.flatMap fun c => if c.toNat < 128 then [c] else Text.hexEscape c

/-- The number that a value stands for itself; numerals do not count. -/
def floatOf (v : Value) : Except Error Float :=
  match v with
  | .int _ | .bool _ | .float _ =>
    match v.number with
    | .ok x => .ok x
    | .error _ => .error .infinite
  | _ => .error .wrongType

/-- Writes letters in upper case. -/
def Written.upper (w : Written) : Written :=
  { w with mark := w.mark.map Char.toUpper, body := w.body.map Char.toUpper }

/-- Writes a value as a letter says. -/
def write (flags : List Char) (precision : Option Nat) (letter : Char) (v : Value) :
    Except Error Written := do
  let cut := fun (cs : List Char) => (precision.map cs.take).getD cs
  let digits := precision.getD 0
  let places := precision.getD 6
  match letter with
  | 's' => return { body := cut v.shown.toList }
  | 'r' => return { body := cut v.quoted.toList }
  | 'a' => return { body := cut (asciiOnly v.quoted.toList) }
  | 'd' | 'i' | 'u' => return writeWhole flags 10 digits [] (← wholeOf true v)
  | 'o' => return writeWhole flags 8 digits ['0', 'o'] (← wholeOf false v)
  | 'x' => return writeWhole flags 16 digits ['0', 'x'] (← wholeOf false v)
  | 'X' => return (writeWhole flags 16 digits ['0', 'x'] (← wholeOf false v)).upper
  | 'f' | 'e' | 'g' => return writeFloat flags places letter (← floatOf v)
  | 'F' | 'E' | 'G' => return (writeFloat flags places letter.toLower (← floatOf v)).upper
  | 'c' => writeChar v
  | c => throw (.unknownLetter c)

/-- Widens what is written: at its end, with zeros before the digits, or at its start. -/
def Written.widened (w : Written) (flags : List Char) (atEnd : Bool) (width : Nat) : List Char :=
  let front := w.sign ++ w.mark
  let missing := width - (front.length + w.body.length)
  if atEnd then front ++ w.body ++ List.replicate missing ' '
  else if w.isNumber && flags.contains '0' then front ++ List.replicate missing '0' ++ w.body
  else List.replicate missing ' ' ++ front ++ w.body

/-- Fills in a marker. -/
def fillMarker (m : Marker) (s : Supply) : Except Error (List Char × Supply) := do
  let s ← s.select m.key
  let (width, s) ← s.measure m.width
  let (precision, s) ← s.measure m.precision
  match m.letter with
  | none => throw .unfinishedMarker
  | some letter =>
    let (v, s) ← s.next
    let w ← write m.flags (precision.map Int.toNat) letter v
    let width := width.getD 0
    return (w.widened m.flags (m.flags.contains '-' || width < 0) width.natAbs, s)

/-- Fills in the pieces of a template one after the other. -/
def fillPieces (s : Supply) : List Piece → Except Error (List Char)
  | [] => if s.entries.isNone && !s.values.isEmpty then .error .leftOverValues else .ok []
  | .char c :: rest => do return c :: (← fillPieces s rest)
  | .marker m :: rest => do
    let (cs, s) ← fillMarker m s
    return cs ++ (← fillPieces s rest)

/-- The text of a template with its values. -/
def fill (template : String) (values : List Value) : Except Error String :=
  if values.isEmpty then .ok template
  else String.ofList <$> fillPieces (.ofValues values) (pieces template.toList)

end Template

end SecretScan
