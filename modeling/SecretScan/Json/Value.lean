import SecretScan.Json
import SecretScan.Value

/-!
# JSON documents as values

A JSON document is a value among others: it can be shown in messages, compared as a key, and asked
whether it stands for nothing.
-/

namespace SecretScan.Json

mutual

/-- The document as a value. -/
def toValue : Json → Value
  | .null => .null
  | .bool b => .bool b
  | .int n => .int n
  | .float x => .float x
  | .str s => .text s
  | .arr items => .list (itemValues items)
  | .obj members => .mapping (memberValues members)

/-- The items of a list as values. -/
def itemValues : List Json → List Value
  | [] => []
  | item :: rest => item.toValue :: itemValues rest

/-- The members of an object as entries. -/
def memberValues : List (String × Json) → List (Value × Value)
  | [] => []
  | (key, value) :: rest => (.text key, value.toValue) :: memberValues rest

end

/-- Does the document stand for nothing: is it absent, false, zero or empty? -/
def isBlank (j : Json) : Bool :=
  j.toValue.isBlank

/-- The document as messages show it. Numerals of any length are shown; a document that was read from
a text has none longer than `Decimal.maxWholeDigits`. -/
def shown (j : Json) : String :=
  j.toValue.shown

/-- The member of an object, or what stands for a missing one. -/
def getD (j : Json) (key : String) (default : Json) : Json :=
  (j.get? key).getD default

end SecretScan.Json
