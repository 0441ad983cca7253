import SecretScan.Decimal.Reading
import SecretScan.Decimal.Shortest
import SecretScan.Text.Wide
import SecretScan.Value.Calendar

/-!
# Values of settings

A setting is read from a document or handed over by a caller, and may be of any type. `Value.shown`
is its text in messages. `Value.same` tells which keys of a mapping are one key: numbers count by
their value, whatever their type. `Value.number` reads a number from whatever stands for one.

A list or a mapping can be part of itself. Such a value is `marked`, and `again` stands for it
within: `Value.inside` is what it holds, with the whole value in the places that stand for it.
-/

namespace SecretScan

/-- A value of any type. -/
inductive Value where
  | null
  | bool (b : Bool)
  | int (n : Int)
  | float (x : Float)
  | text (s : Text.Wide)
  | bytes (content : List UInt8)
  | date (d : Date)
  | moment (t : Moment)
  | list (items : List Value)
  | pair (first second : Value)
  | mapping (entries : List (Value × Value))
  | set (items : List Value)
  /-- A value that is part of itself. -/
  | marked (mark : Nat) (v : Value)
  /-- Within the value of a mark, that value. -/
  | again (mark : Nat)
  deriving Repr, Inhabited

namespace Value

/-- One byte between quotes. -/
def quotedByte (quote : Char) (b : UInt8) : List Char :=
  let c := Char.ofNat b.toNat
  if b < 0x80 then Text.quotedChar quote c else '\\' :: 'x' :: Text.hexDigits 2 b.toNat

/-- Bytes as messages show them. -/
def quotedBytes (content : List UInt8) : String :=
  let quote := Text.quoteFor (content.map fun b => Char.ofNat b.toNat)
  String.ofList ('b' :: quote :: content.flatMap (quotedByte quote) ++ [quote])

/-- Words with commas between them, in parentheses after a name. -/
def call (name : String) (arguments : List String) : String :=
  name ++ "(" ++ ", ".intercalate arguments ++ ")"

/-- A distance from universal time as messages show it within a value. -/
def quotedOffset (minutes : Int) : String :=
  if minutes == 0 then "datetime.timezone.utc"
  else
    let days := if minutes < 0 then ["days=-1"] else []
    let seconds := (minutes % 1440) * 60
    call "datetime.timezone" [call "datetime.timedelta" (days ++ ["seconds=" ++ toString seconds])]

/-- A date as messages show it within a value. -/
def quotedDate (d : Date) : String :=
  call "datetime.date" [toString d.year, toString d.month, toString d.day]

/-- A time of a day as messages show it within a value. -/
def quotedMoment (t : Moment) : String :=
  let start := [t.date.year, t.date.month, t.date.day, t.hour, t.minute]
  let rest :=
    if t.microsecond != 0 then [t.second, t.microsecond]
    else if t.second != 0 then [t.second] else []
  let offset := (t.offset.map fun o => "tzinfo=" ++ quotedOffset o).toList
  call "datetime.datetime" ((start ++ rest).map toString ++ offset)

/-- What messages show of a value within itself. -/
def briefly : Value → String
  | .list _ => "[...]"
  | .mapping _ => "\x7b...\x7d"
  | .pair _ _ => "(...)"
  | _ => "..."

mutual

/-- A value as messages show it within other ones; the marks of those come with what is shown where
one of them stands again. -/
def quotedWithin (outer : List (Nat × String)) : Value → String
  | .null => "None"
  | .bool b => if b then "True" else "False"
  | .int n => toString n
  | .float x => Decimal.shown x
  | .text s => s.quoted
  | .bytes content => quotedBytes content
  | .date d => quotedDate d
  | .moment t => quotedMoment t
  | .list items => "[" ++ ", ".intercalate (quotedItems outer items) ++ "]"
  | .pair first second =>
    "(" ++ first.quotedWithin outer ++ ", " ++ second.quotedWithin outer ++ ")"
  | .mapping entries => "\x7b" ++ ", ".intercalate (quotedEntries outer entries) ++ "\x7d"
  | .set items =>
    if items.isEmpty then "set()"
    else "\x7b" ++ ", ".intercalate (quotedItems outer items) ++ "\x7d"
  | .marked mark v =>
    match outer.lookup mark with
    | some brief => brief
    | none => v.quotedWithin ((mark, v.briefly) :: outer)
  | .again mark => (outer.lookup mark).getD "..."

/-- The items of a list. -/
def quotedItems (outer : List (Nat × String)) : List Value → List String
  | [] => []
  | item :: rest => item.quotedWithin outer :: quotedItems outer rest

/-- The entries of a mapping. -/
def quotedEntries (outer : List (Nat × String)) : List (Value × Value) → List String
  | [] => []
  | (key, value) :: rest =>
    (key.quotedWithin outer ++ ": " ++ value.quotedWithin outer) :: quotedEntries outer rest

end

/-- A value as messages show it within something else. -/
def quoted (v : Value) : String :=
  v.quotedWithin []

/-- A value as a text by itself. -/
def asText : Value → Text.Wide
  | .text s => s
  | .date d => .wellFormed d.text
  | .moment t => .wellFormed (t.text " ")
  | v => .wellFormed v.quoted

/-- A value as messages show it by itself. -/
def shown (v : Value) : String :=
  v.asText.shown

mutual

/-- Can the value be shown? A whole number with more digits than a numeral may have cannot. -/
def isShowable : Value → Bool
  | .int n => (Decimal.digitsOf n.natAbs).length ≤ Decimal.maxWholeDigits
  | .list items | .set items => areShowable items
  | .pair first second => first.isShowable && second.isShowable
  | .mapping entries => areEntriesShowable entries
  | .marked _ v => v.isShowable
  | .again _ | .null | .bool _ | .float _ | .text _ | .bytes _ | .date _ | .moment _ => true

/-- Can all items of a list be shown? -/
def areShowable : List Value → Bool
  | [] => true
  | item :: rest => item.isShowable && areShowable rest

/-- Can all entries of a mapping be shown? -/
def areEntriesShowable : List (Value × Value) → Bool
  | [] => true
  | (key, value) :: rest => key.isShowable && value.isShowable && areEntriesShowable rest

end

/-- Does the value stand for nothing: is it absent, false, zero or empty? -/
def isBlank : Value → Bool
  | .null => true
  | .bool b => !b
  | .int n => n == 0
  | .float x => x == 0
  | .text s => s.isEmpty
  | .bytes content => content.isEmpty
  | .list items => items.isEmpty
  | .mapping entries => entries.isEmpty
  | .set items => items.isEmpty
  | .marked _ v => v.isBlank
  | .date _ | .moment _ | .pair _ _ | .again _ => false

/-! ## Values within themselves -/

mutual

/-- Puts a value in the places that stand for it. -/
def withAgain (mark : Nat) (whole : Value) : Value → Value
  | .again m => if m == mark then whole else .again m
  -- what stands within the value itself stands for it already
  | .marked m v => if m == mark then .marked m v else .marked m (withAgain mark whole v)
  | .list items => .list (withAgainItems mark whole items)
  | .set items => .set (withAgainItems mark whole items)
  | .pair first second => .pair (withAgain mark whole first) (withAgain mark whole second)
  | .mapping entries => .mapping (withAgainEntries mark whole entries)
  | v => v

/-- Puts a value in the places of a list that stand for it. -/
def withAgainItems (mark : Nat) (whole : Value) : List Value → List Value
  | [] => []
  | item :: rest => withAgain mark whole item :: withAgainItems mark whole rest

/-- Puts a value in the places of a mapping that stand for it. -/
def withAgainEntries (mark : Nat) (whole : Value) : List (Value × Value) → List (Value × Value)
  | [] => []
  | (key, value) :: rest =>
    (withAgain mark whole key, withAgain mark whole value) :: withAgainEntries mark whole rest

end

/-- What a value holds, each part of which can stand by itself. -/
def inside : Value → Value
  | .marked mark v => withAgain mark (.marked mark v) v
  | v => v

/-! ## Order and equality -/

/-- A number that is compared by its value. -/
inductive Magnitude where
  | finite (numerator : Int) (denominator : Nat)
  | infinite (negative : Bool)
  | notANumber

/-- The number that a value is, if it is one. -/
def magnitude? : Value → Option Magnitude
  | .bool b => some (.finite (if b then 1 else 0) 1)
  | .int n => some (.finite n 1)
  | .float x =>
    match Decimal.BinaryFraction.ofFloat? x with
    | some f =>
      let (n, d) := f.quotient
      some (.finite (if f.negative then -Int.ofNat n else Int.ofNat n) d)
    | none => some (if x.isNaN then .notANumber else .infinite (x < 0))
  | _ => none

/-- Where a number stands among the infinities. -/
def Magnitude.side : Magnitude → Int
  | .infinite negative => if negative then -1 else 1
  | _ => 0

/-- Compares two numbers; nothing compares with what is not a number. -/
def Magnitude.compare? : Magnitude → Magnitude → Option Ordering
  | .notANumber, _ => none
  | _, .notANumber => none
  | .finite n d, .finite n' d' => some (Ord.compare (n * Int.ofNat d') (n' * Int.ofNat d))
  | a, b => some (Ord.compare a.side b.side)

/-- Compares two moments, if both or neither know their distance from universal time. -/
def compareMoments? (t t' : Moment) : Option Ordering :=
  if t.offset.isSome == t'.offset.isSome then some (Ord.compare t.instant t'.instant) else none

/-- Are two values the same key? -/
def same (a b : Value) : Bool :=
  match a, b with
  | .null, .null => true
  | .text s, .text s' => s == s'
  | .bytes c, .bytes c' => c == c'
  | .date d, .date d' => d == d'
  | .moment t, .moment t' => compareMoments? t t' == some .eq
  | _, _ =>
    match a.magnitude?, b.magnitude? with
    | some x, some y => x.compare? y == some .eq
    | _, _ => false

/-- Can the value be a key of a mapping? -/
def isKey : Value → Bool
  | .list _ | .mapping _ | .set _ | .marked _ _ | .again _ => false
  | _ => true

/-- Is the first of two keys less than the second? Keys of different types cannot be compared. -/
def less? (a b : Value) : Option Bool :=
  match a, b with
  | .text s, .text s' => some (s.isBefore s')
  | .bytes c, .bytes c' => some (c < c')
  | .date d, .date d' => some (d.ordinal < d'.ordinal)
  | .moment t, .moment t' => (compareMoments? t t').map (· == .lt)
  | _, _ =>
    match a.magnitude?, b.magnitude? with
    | some x, some y => some (x.compare? y == some .lt)
    | _, _ => none

/-- Puts a key into a sorted list. -/
def insertKey (key : Value) : List Value → Option (List Value)
  | [] => some [key]
  | k :: rest => do
    if ← key.less? k then return key :: k :: rest
    else return k :: (← insertKey key rest)

/-- Sorts keys, if they can be compared. -/
def sortKeys? : List Value → Option (List Value)
  | [] => some []
  | key :: rest => do insertKey key (← sortKeys? rest)

/-- Sets the value of a key: in its place if it is there, at the end if not. -/
def putEntry (key value : Value) : List (Value × Value) → List (Value × Value)
  | [] => [(key, value)]
  | (k, v) :: rest => if k.same key then (k, value) :: rest else (k, v) :: putEntry key value rest

/-! ## Numbers -/

/-- Why a value cannot be read as a number. -/
inductive NumberError where
  | notNumeral
  | tooLarge
  deriving DecidableEq, Repr

/-- The number that a value stands for: numbers, truth values, and texts that are numerals. -/
def number : Value → Except NumberError Float
  | .bool b => .ok (if b then 1 else 0)
  | .int n =>
    match Decimal.floatOfInt? n with
    | some x => .ok x
    | none => .error .tooLarge
  | .float x => .ok x
  | .text (.wellFormed s) =>
    match Decimal.readNumber? s.toList with
    | some x => .ok x
    | none => .error .notNumeral
  | .bytes content =>
    match Decimal.readNumber? (content.map fun b => Char.ofNat (if b < 0x80 then b.toNat else 0)) with
    | some x => .ok x
    | none => .error .notNumeral
  | _ => .error .notNumeral

end Value

end SecretScan
