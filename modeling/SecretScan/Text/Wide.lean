import SecretScan.Text.Quoted

/-!
# Texts with surrogates

The escapes of a document can ask for surrogates, which are no characters by themselves. A `Wide`
text is a text that may hold some: a string, or else an `IllFormed` text that is none.
-/

namespace SecretScan.Text

/-- A character, or a surrogate by itself. -/
inductive CodePoint where
  | char (c : Char)
  | surrogate (n : Fin 0x800)
  deriving DecidableEq, Repr

namespace CodePoint

/-- The number of a code point. -/
def number : CodePoint → Nat
  | .char c => c.toNat
  | .surrogate n => 0xD800 + n

/-- The code point of a number below `0x110000`. -/
def ofNumber (n : Nat) : CodePoint :=
  if h : 0xD800 ≤ n ∧ n < 0xE000 then .surrogate ⟨n - 0xD800, by omega⟩ else .char (Char.ofNat n)

/-- Is it a surrogate? -/
def isSurrogate : CodePoint → Bool
  | .char _ => false
  | .surrogate _ => true

/-- The character that shows a code point. -/
def shown : CodePoint → Char
  | .char c => c
  | .surrogate _ => Char.ofNat 0xFFFD

/-- One code point between quotes of the given kind. -/
def quoted (quote : Char) : CodePoint → List Char
  | .char c => quotedChar quote c
  | .surrogate n => '\\' :: 'u' :: hexDigits 4 (0xD800 + n)

end CodePoint

/-- A text that is no string, for the surrogates in it. -/
structure IllFormed where
  content : List CodePoint
  any_isSurrogate : content.any CodePoint.isSurrogate = true
  deriving DecidableEq, Repr

/-- A text that may hold surrogates. -/
inductive Wide where
  | wellFormed (s : String)
  | illFormed (t : IllFormed)
  deriving DecidableEq, Repr

instance : Coe String Wide := ⟨.wellFormed⟩

namespace Wide

/-- The text of some code points. -/
def ofCodePoints (content : List CodePoint) : Wide :=
  if h : content.any CodePoint.isSurrogate then .illFormed ⟨content, h⟩
  else .wellFormed (String.ofList (content.map CodePoint.shown))

/-- The code points of a text. -/
def codePoints : Wide → List CodePoint
  | .wellFormed s => s.toList.map .char
  | .illFormed t => t.content

/-- The string nearest to a text: each surrogate is replaced. -/
def shown : Wide → String
  | .wellFormed s => s
  | .illFormed t => String.ofList (t.content.map CodePoint.shown)

/-- A text as messages show it within something else. -/
def quoted : Wide → String
  | .wellFormed s => Text.quoted s
  | .illFormed t =>
    let q := quoteFor (t.content.map CodePoint.shown)
    String.ofList (q :: t.content.flatMap (CodePoint.quoted q) ++ [q])

/-- Is there nothing in the text? -/
def isEmpty : Wide → Bool
  | .wellFormed s => s.isEmpty
  | .illFormed _ => false

/-- Does one text come before another one, by the numbers of their code points? -/
def isBefore : Wide → Wide → Bool
  | .wellFormed s, .wellFormed s' => s < s'
  | t, t' => t.codePoints.map CodePoint.number < t'.codePoints.map CodePoint.number

end Wide

end SecretScan.Text
