import SecretScan.Text.Chunk
import SecretScan.Yaml.Error

/-!
# The text of a document

A document is taken in by pieces while its tokens are read. A piece that cannot be taken in, as it
is no text or holds a character that no document may hold, is a fault only if the reading comes
there.
-/

namespace SecretScan.Yaml

/-- What can be taken in of a document. -/
structure Input where
  text : List Char
  /-- Why no more can be taken in, unless the document ends here. -/
  fault : Option Error := none

/-- May the character stand in a document? -/
def isDocumentChar (c : Char) : Bool :=
  let n := c.toNat
  n == 9 || n == 10 || n == 13 || (32 ≤ n && n ≤ 126) || n == 0x85 ||
    (0xA0 ≤ n && n ≤ 0xFFFD) || 0x10000 ≤ n

namespace Input

/-- What can be taken in of some pieces; `isWhole` tells whether the last of them ends the
document. -/
def ofPieces (isWhole : Bool) : List (List Char) → Input
  | [] => ⟨[], if isWhole then none else some .notUtf8⟩
  | piece :: rest =>
    if piece.all isDocumentChar then
      let input := ofPieces isWhole rest
      { input with text := piece ++ input.text }
    else ⟨[], some .malformed⟩

/-- The text of a document. The first piece has two blocks. -/
def ofBytes (bytes : List UInt8) : Input :=
  match Text.ChunkReader.blocks bytes with
  | (first :: second :: rest, isWhole) => ofPieces isWhole ((first ++ second) :: rest)
  | ([block], true) => ofPieces true [block]
  | (_, isWhole) => ofPieces isWhole []

end Input

end SecretScan.Yaml
