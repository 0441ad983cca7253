import SecretScan.Decimal.Binary
import SecretScan.Text.Blank
import SecretScan.Text.WordChar

/-!
# Reading numerals

A numeral is read from a text of any script: blanks around it are dropped, decimal digits count
by their value, and a single underscore may stand between two digits. `readNumber?` reads a number
with a fractional part, an exponent, or one of the words for infinity and not-a-number;
`readWhole?` reads a whole number.
-/

namespace SecretScan.Decimal

open SecretScan.Text

/-- Digits of any script as ASCII digits and blanks as spaces. In a pure ASCII text nothing
changes, so that the information separators stay what they are. -/
def plainChar (c : Char) : Char :=
  if c.toNat < 127 then c
  else if isBlank c then ' '
  else match decimalValue? c with
    | some d => Char.ofNat (48 + d)
    | none => '?'

/-- The numeral in a text: plain characters, without the blanks around. -/
def trimmed (text : List Char) : List Char :=
  let cs := (text.map plainChar).dropWhile isAsciiBlank
  (cs.reverse.dropWhile isAsciiBlank).reverse

/-- Drops the underscores, if each stands between two digits; `before` is the last character. -/
def withoutUnderscores (before : Option Char) : List Char → Option (List Char)
  | [] => if before = some '_' then none else some []
  | '_' :: rest =>
    if before.any Char.isDigit then withoutUnderscores (some '_') rest else none
  | c :: rest =>
    if before = some '_' ∧ ¬ c.isDigit then none
    else (withoutUnderscores (some c) rest).map (c :: ·)

/-- Splits off a sign; true means minus. -/
def signOf : List Char → Bool × List Char
  | '-' :: rest => (true, rest)
  | '+' :: rest => (false, rest)
  | cs => (false, cs)

/-- The value of ASCII digits. -/
def digitsValue (ds : List Char) : Nat :=
  ds.foldl (fun n d => 10 * n + (d.toNat - 48)) 0

/-- `digits * 10 ^ exponent` rounded to a float; exponents out of all range are not computed. -/
def toFloat (digits : Nat) (exponent : Int) : Float :=
  if digits == 0 then 0
  else
    let size := Int.ofNat (digitsOf digits).length + exponent
    if 400 < size then 1.0 / 0.0
    else if size < -400 then 0
    else Float.ofScientific digits (exponent < 0) exponent.natAbs

/-- The exponent part of a numeral: nothing, or `e`, a sign and digits. -/
def exponentOf : List Char → Option Int
  | [] => some 0
  | e :: rest =>
    if e == 'e' || e == 'E' then
      let (negative, ds) := signOf rest
      if ds.isEmpty || !ds.all Char.isDigit then none
      else some (if negative then -Int.ofNat (digitsValue ds) else Int.ofNat (digitsValue ds))
    else none

/-- An unsigned numeral with an optional fractional part and an optional exponent. -/
def unsignedNumber? (cs : List Char) : Option Float :=
  let whole := cs.takeWhile Char.isDigit
  let rest := cs.dropWhile Char.isDigit
  let (fraction, rest) := match rest with
    | '.' :: more => (more.takeWhile Char.isDigit, more.dropWhile Char.isDigit)
    | _ => ([], rest)
  if whole.isEmpty && fraction.isEmpty then none
  else do
    let exponent ← exponentOf rest
    return toFloat (digitsValue (whole ++ fraction)) (exponent - fraction.length)

/-- The number a text stands for. -/
def readNumber? (text : List Char) : Option Float := do
  let cs ← withoutUnderscores none (trimmed text)
  let (negative, body) := signOf cs
  let word := String.ofList (body.map Char.toLower)
  let value ←
    if word == "inf" || word == "infinity" then some (1.0 / 0.0)
    else if word == "nan" then some (0.0 / 0.0)
    else unsignedNumber? body
  return if negative then -value else value

/-- The value of a digit in bases up to thirty-six. -/
def digitValue? (c : Char) : Option Nat :=
  if c.isDigit then some (c.toNat - 48)
  else if c.isUpper then some (c.toNat - 55)
  else if c.isLower then some (c.toNat - 87)
  else none

/-- The value of digits in a base; there must be one. -/
def valueInBase? (base : Nat) (ds : List Char) : Option Nat :=
  if ds.isEmpty then none
  else ds.foldlM (fun n c => do
    let d ← digitValue? c
    if d < base then some (base * n + d) else none) 0

/-- The letter that may stand after a zero before the digits of a base. -/
def baseLetter (base : Nat) : Char :=
  if base == 2 then 'b' else if base == 8 then 'o' else 'x'

/-- The digits of a numeral without the mark of its base. -/
def withoutBaseMark (base : Nat) : List Char → List Char
  | '0' :: c :: rest =>
    if c.toLower == baseLetter base then
      match rest with
      | '_' :: ds => ds
      | ds => ds
    else '0' :: c :: rest
  | ds => ds

/-- The whole number a text stands for in base two, eight or sixteen. -/
def readWholeInBase? (base : Nat) (text : List Char) : Option Int := do
  let (negative, body) := signOf (trimmed text)
  let ds := withoutBaseMark base body
  if ds.any (· == '_') then none
  else
    let n ← valueInBase? base ds
    return if negative then -Int.ofNat n else Int.ofNat n

/-- The longest numeral of a whole number that is read. -/
def maxWholeDigits : Nat := 4300

/-- The whole number a text stands for. -/
def readWhole? (text : List Char) : Option Int := do
  let (negative, body) := signOf (trimmed text)
  let ds ← withoutUnderscores none body
  if ds.isEmpty || !ds.all Char.isDigit || maxWholeDigits < ds.length then none
  else some (if negative then -Int.ofNat (digitsValue ds) else Int.ofNat (digitsValue ds))

/-- A whole number as a float, unless it is too large for one. -/
def floatOfInt? (n : Int) : Option Float :=
  let x := toFloat n.natAbs 0
  if x.isInf then none else some (if n < 0 then -x else x)

end SecretScan.Decimal
