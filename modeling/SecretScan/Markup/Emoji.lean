import SecretScan.Markup.EmojiNames
import SecretScan.Text.Blank
import SecretScan.Text.Grapheme
import SecretScan.Text.LetterCase

/-!
# Emoji in markup

A name between colons stands for an emoji, in upper or lower case. `-text` or `-emoji` after the
name asks for its plain form or for its picture. A name that is none stays as it is, colons and all.
-/

namespace SecretScan.Markup

/-- The selector of the plain form of a symbol. -/
def plainSelector : Char := Char.ofNat 0xFE0E

/-- Splits off an ending. -/
def withoutEnding? (ending : String) (body : List Char) : Option (List Char) :=
  if ending.toList.isSuffixOf body then some (body.take (body.length - ending.length)) else none

/-- The name between colons, and the selector that is asked for. -/
def nameAndSelector (body : List Char) : List Char × List Char :=
  match withoutEnding? "-text" body, withoutEnding? "-emoji" body with
  | some name, _ => (name, [plainSelector])
  | none, some name => (name, [Text.pictureSelector])
  | none, none => (body, [])

/-- What is shown for what stands between two colons. -/
def betweenColons (body : List Char) : List Char :=
  let (name, selector) := nameAndSelector body
  match emoji? (Text.lowered name) with
  | some picture => picture ++ selector
  | none => ':' :: body ++ [':']

/-- A text with emoji for their names; `body` is what stands after a colon that is still open. -/
def withEmojiFrom (body : Option (List Char)) (text : List Char) : List Char :=
  match text, body with
  | [], none => []
  | [], some body => ':' :: body
  | c :: rest, none =>
    if c = ':' then withEmojiFrom (some []) rest else c :: withEmojiFrom none rest
  | c :: rest, some body =>
    if c = ':' then betweenColons body ++ withEmojiFrom none rest
    else if Text.isBlank c then ':' :: body ++ c :: withEmojiFrom none rest
    else withEmojiFrom (some (body ++ [c])) rest

/-- A text with emoji for their names. -/
def withEmoji (text : List Char) : List Char :=
  withEmojiFrom none text

/-- A text without colons stays as it is. -/
theorem withEmoji_of_noColon {text : List Char} (h : ':' ∉ text) : withEmoji text = text := by
  unfold withEmoji
  induction text with
  | nil => rfl
  | cons c rest ih =>
    simp only [List.mem_cons, not_or] at h
    rw [withEmojiFrom, if_neg (Ne.symm h.1), ih h.2]

end SecretScan.Markup
