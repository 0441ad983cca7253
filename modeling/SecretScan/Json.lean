import SecretScan.Decimal.Shortest
import SecretScan.Text.Quoted

/-!
# JSON documents

Reports are JSON documents. Objects keep the order of their members. A document is written on one
line, or indented with one member a line; both forms are pure ASCII, other characters are escaped
as UTF-16 units.
-/

namespace SecretScan

/-- A JSON document. Whole numbers and floating-point numbers are told apart. -/
inductive Json where
  | null
  | bool (b : Bool)
  | int (n : Int)
  | float (x : Float)
  | str (s : String)
  | arr (items : List Json)
  | obj (members : List (String × Json))
  deriving Repr, Inhabited

namespace Json

/-- The escape of one UTF-16 unit. -/
def unitEscape (n : Nat) : List Char :=
  '\\' :: 'u' :: Text.hexDigits 4 n

/-- One character within a string. -/
def escapedChar (c : Char) : List Char :=
  if c == '"' || c == '\\' then ['\\', c]
  else if c == '\n' then ['\\', 'n']
  else if c == '\r' then ['\\', 'r']
  else if c == '\t' then ['\\', 't']
  else if c.toNat == 8 then ['\\', 'b']
  else if c.toNat == 12 then ['\\', 'f']
  else if 32 ≤ c.toNat && c.toNat < 127 then [c]
  else if c.toNat < 0x10000 then unitEscape c.toNat
  else
    let n := c.toNat - 0x10000
    unitEscape (0xD800 + n / 0x400) ++ unitEscape (0xDC00 + n % 0x400)

/-- A string with its quotes. -/
def quotedString (s : String) : String :=
  String.ofList ('"' :: s.toList.flatMap escapedChar ++ ['"'])

/-- A floating-point number. -/
def floatText (x : Float) : String :=
  if x.isNaN then "NaN"
  else if x.isInf then (if x < 0 then "-Infinity" else "Infinity")
  else Decimal.shown x

/-- Pieces of text with a separator between them. -/
def joined (separator : String) (pieces : List String) : String :=
  separator.intercalate pieces

mutual

/-- A document on one line. -/
def compact : Json → String
  | .null => "null"
  | .bool b => if b then "true" else "false"
  | .int n => toString n
  | .float x => floatText x
  | .str s => quotedString s
  | .arr items => "[" ++ joined ", " (compactItems items) ++ "]"
  | .obj members => "\x7b" ++ joined ", " (compactMembers members) ++ "\x7d"

/-- The items of a list, each on one line. -/
def compactItems : List Json → List String
  | [] => []
  | item :: rest => item.compact :: compactItems rest

/-- The members of an object, each on one line. -/
def compactMembers : List (String × Json) → List String
  | [] => []
  | (key, value) :: rest => (quotedString key ++ ": " ++ value.compact) :: compactMembers rest

end

/-- A line break and the indentation of a depth. -/
def newLine (depth : Nat) : String :=
  String.ofList ('\n' :: List.replicate (2 * depth) ' ')

/-- A bracketed block with one piece a line. -/
def block (opening closing : String) (depth : Nat) (pieces : List String) : String :=
  match pieces with
  | [] => opening ++ closing
  | _ =>
    opening ++ newLine (depth + 1) ++ joined ("," ++ newLine (depth + 1)) pieces ++
      newLine depth ++ closing

mutual

/-- A document with one member a line, two blanks a level. -/
def indented (depth : Nat) : Json → String
  | .arr items => block "[" "]" depth (indentedItems (depth + 1) items)
  | .obj members => block "\x7b" "\x7d" depth (indentedMembers (depth + 1) members)
  | .null => "null"
  | .bool b => if b then "true" else "false"
  | .int n => toString n
  | .float x => floatText x
  | .str s => quotedString s

/-- The items of a list. -/
def indentedItems (depth : Nat) : List Json → List String
  | [] => []
  | item :: rest => item.indented depth :: indentedItems depth rest

/-- The members of an object. -/
def indentedMembers (depth : Nat) : List (String × Json) → List String
  | [] => []
  | (key, value) :: rest =>
    (quotedString key ++ ": " ++ value.indented depth) :: indentedMembers depth rest

end

/-- The document as reports write it. -/
def pretty (j : Json) : String :=
  j.indented 0

/-- The value of a member, if the document is an object that has it. -/
def get? (key : String) : Json → Option Json
  | .obj members => members.lookup key
  | _ => none

/-- Sets a member: in its place if there is one, and at the end if not. -/
def putMember (key : String) (value : Json) : List (String × Json) → List (String × Json)
  | [] => [(key, value)]
  | (k, v) :: rest =>
    if k = key then (k, value) :: rest else (k, v) :: putMember key value rest

/-- Sets a member of an object; other documents stay as they are. -/
def put (j : Json) (key : String) (value : Json) : Json :=
  match j with
  | .obj members => .obj (putMember key value members)
  | _ => j

end Json

end SecretScan
