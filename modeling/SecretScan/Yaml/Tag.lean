import SecretScan.Decimal.Reading
import SecretScan.Text.Lines
import SecretScan.Value.Calendar

/-!
# Tags

A tag says what a node stands for. A plain scalar without one has the tag that its text looks
like: `Tag.ofPlain` tells truth values, numbers, dates and absent values from all other texts.
-/

namespace SecretScan.Yaml

/-- What a node stands for. -/
inductive Tag where
  | null
  | bool
  | int
  | float
  | binary
  | timestamp
  | orderedMap
  | pairs
  | set
  | str
  | seq
  | map
  /-- The key whose value is merged into the mapping. -/
  | merge
  /-- The key whose value stands for the mapping. -/
  | value
  | other (name : String)
  deriving DecidableEq, Repr

/-- The start of the names of all common tags. -/
def commonTagStart : String :=
  "tag:yaml.org,2002:"

/-- The tag of a name. -/
def Tag.ofName (name : String) : Tag :=
  let common : List (String × Tag) := [("null", .null), ("bool", .bool), ("int", .int),
    ("float", .float), ("binary", .binary), ("timestamp", .timestamp), ("omap", .orderedMap),
    ("pairs", .pairs), ("set", .set), ("str", .str), ("seq", .seq), ("map", .map),
    ("merge", .merge), ("value", .value)]
  ((common.map fun (n, t) => (commonTagStart ++ n, t)).lookup name).getD (.other name)

/-! ## Truth values and absent values -/

/-- The words for truth values. -/
def truthWords : List (String × Bool) :=
  [("yes", true), ("no", false), ("true", true), ("false", false), ("on", true), ("off", false)]

/-- A word in lower case with a capital letter at its start. -/
def capitalized (word : String) : String :=
  match word.toList with
  | [] => ""
  | c :: cs => String.ofList (c.toUpper :: cs)

/-- Is the text a word for a truth value: in lower case, capitalized, or in capitals? -/
def isTruthWord (text : String) : Bool :=
  truthWords.any fun (w, _) => text == w || text == capitalized w || text == w.map Char.toUpper

/-- Does the text stand for an absent value? -/
def isNullWord (text : String) : Bool :=
  ["", "~", "null", "Null", "NULL"].contains text

/-! ## Numbers -/

/-- Is it a digit or an underscore? -/
def isDigitOrLine (c : Char) : Bool :=
  c.isDigit || c == '_'

/-- Are these the parts of a number in base sixty: the first of any length, the others two-digit
numbers below sixty? There must be more than one. -/
def isSexagesimal (cs : List Char) : Bool :=
  match Text.cutAt ':' cs with
  | first :: rest =>
    !rest.isEmpty && first.all isDigitOrLine && rest.all fun p =>
      match p with
      | [d] => d.isDigit
      | [t, d] => t.isDigit && t.toNat < 54 && d.isDigit
      | _ => false
  | [] => false

/-- Does the text look like a whole number? -/
def isIntText (text : List Char) : Bool :=
  let (_, cs) := Decimal.signOf text
  match cs with
  | '0' :: 'b' :: ds => !ds.isEmpty && ds.all fun c => c == '0' || c == '1' || c == '_'
  | '0' :: 'x' :: ds =>
    !ds.isEmpty && ds.all fun c => c == '_' || ((Decimal.digitValue? c).any (· < 16))
  | '0' :: ds => ds.all fun c => c == '_' || (c.isDigit && c.toNat < 56)
  | d :: ds => d.isDigit && (ds.all isDigitOrLine || isSexagesimal cs)
  | [] => false

/-- Is this nothing, or an exponent with a sign? -/
def isExponent : List Char → Bool
  | [] => true
  | e :: sign :: ds =>
    (e == 'e' || e == 'E') && (sign == '+' || sign == '-') && !ds.isEmpty && ds.all Char.isDigit
  | _ => false

/-- Does the text look like a number with a fractional part? -/
def isFloatText (text : List Char) : Bool :=
  let (_, cs) := Decimal.signOf text
  let word := String.ofList cs
  let whole := cs.takeWhile (· != '.')
  match cs.dropWhile (· != '.') with
  | [] => false
  | _ :: after =>
    let fraction := after.dropWhile isDigitOrLine
    if whole.isEmpty then
      [".inf", ".Inf", ".INF"].contains word ||
        (cs == text && ([".nan", ".NaN", ".NAN"].contains word ||
          (after.head?.any Char.isDigit && isExponent fraction)))
    else
      whole.head?.any Char.isDigit &&
        ((whole.all isDigitOrLine && isExponent fraction) ||
          (isSexagesimal whole && fraction.isEmpty))

/-! ## Dates -/

/-- The parts of a date as read. -/
structure DateParts where
  moment : Moment
  /-- Is there a time of day? -/
  hasTime : Bool
  /-- Have month and day two digits each? -/
  isPadded : Bool

/-- Takes digits: at least `least`, at most `most`. -/
def takeDigits (least most : Nat) (cs : List Char) : Option (List Char × List Char) :=
  let ds := (cs.take most).takeWhile Char.isDigit
  if ds.length < least then none else some (ds, cs.drop ds.length)

/-- Takes a sign. -/
def takeSign (sign : Char) : List Char → Option (List Char)
  | c :: cs => if c == sign then some cs else none
  | [] => none

/-- Takes the distance from universal time, in minutes; nothing may follow. -/
def offsetOf (cs : List Char) : Option (Option Int) :=
  match cs.dropWhile fun c => c == ' ' || c == '\t' with
  | [] => if cs.isEmpty then some none else none
  | ['Z'] => some (some 0)
  | sign :: cs => do
    if sign != '+' && sign != '-' then none
    let (hours, rest) ← takeDigits 1 2 cs
    let minutes ← match rest with
      | [] => some []
      | ':' :: rest => do
        let (ds, rest) ← takeDigits 2 2 rest
        if rest.isEmpty then some ds else none
      | _ => none
    let total := Int.ofNat (Decimal.digitsValue hours * 60 + Decimal.digitsValue minutes)
    return some (if sign == '-' then -total else total)

/-- The microseconds of a fraction of a second. -/
def microseconds (fraction : List Char) : Nat :=
  let ds := fraction.take 6
  Decimal.digitsValue (ds ++ List.replicate (6 - ds.length) '0')

/-- The time of day after a date. -/
def timeOf (date : Date) (cs : List Char) : Option Moment := do
  let cs ← match cs with
    | c :: rest =>
      if c == 'T' || c == 't' then some rest
      else if c == ' ' || c == '\t' then some (rest.dropWhile fun c => c == ' ' || c == '\t')
      else none
    | [] => none
  let (hour, cs) ← takeDigits 1 2 cs
  let (minute, cs) ← takeDigits 2 2 (← takeSign ':' cs)
  let (second, cs) ← takeDigits 2 2 (← takeSign ':' cs)
  let (fraction, cs) := match cs with
    | '.' :: rest => (rest.takeWhile Char.isDigit, rest.dropWhile Char.isDigit)
    | _ => ([], cs)
  let offset ← offsetOf cs
  return {
    date
    hour := Decimal.digitsValue hour
    minute := Decimal.digitsValue minute
    second := Decimal.digitsValue second
    microsecond := microseconds fraction
    offset }

/-- Reads a date, with or without a time of day. Whether there is such a day is not asked. -/
def datePartsOf (text : List Char) : Option DateParts := do
  let (year, cs) ← takeDigits 4 4 text
  let (month, cs) ← takeDigits 1 2 (← takeSign '-' cs)
  let (day, cs) ← takeDigits 1 2 (← takeSign '-' cs)
  let date : Date := ⟨Decimal.digitsValue year, Decimal.digitsValue month, Decimal.digitsValue day⟩
  let isPadded := month.length == 2 && day.length == 2
  if cs.isEmpty then return ⟨⟨date, 0, 0, 0, 0, none⟩, false, isPadded⟩
  else return ⟨← timeOf date cs, true, isPadded⟩

/-- The text without a line feed at its end, which does not count when texts are recognised. -/
def withoutLastLineFeed (text : List Char) : List Char :=
  if text.getLast? == some '\n' then text.dropLast else text

/-- Does the text look like a date? Without a time of day it must have two digits for month and
day. -/
def isDateText (text : List Char) : Bool :=
  (datePartsOf text).any fun p => p.hasTime || p.isPadded

/-- The tag that the text of a plain scalar looks like. -/
def Tag.ofPlain (text : String) : Tag :=
  let cs := withoutLastLineFeed text.toList
  let word := String.ofList cs
  if text == "\n" then .str
  else if isTruthWord word then .bool
  else if isFloatText cs then .float
  else if isIntText cs then .int
  else if word == "<<" then .merge
  else if isNullWord word then .null
  else if isDateText cs then .timestamp
  else if word == "=" then .value
  else .str

end SecretScan.Yaml
