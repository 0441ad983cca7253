import SecretScan.Text.Lines
import SecretScan.Text.Utf8

/-!
# Reading a file as text

A file is read in chunks of bytes, and handed out in blocks of characters. A block is there once as
many chunks have been decoded as it takes, so a fault of the encoding is met with the first block
that needs the chunk it is in. Each end of line is handed out as a line feed.
-/

namespace SecretScan.Text

/-- How far a file has been read. -/
structure ChunkReader where
  /-- The bytes that are left. -/
  bytes : List UInt8
  /-- The unfinished character at the end of the last chunk. -/
  pending : Option Utf8.Pending := none
  /-- Did the last chunk end in a carriage return? -/
  afterReturn : Bool := false
  /-- What was decoded and not yet handed out. -/
  ready : List Char := []
  /-- How many bytes and characters the last chunk had. -/
  lastBytes : Nat := 0
  lastChars : Nat := 0

namespace ChunkReader

/-- How many characters a block has. -/
def blockSize : Nat := 4096

/-- The least size of a chunk. -/
def chunkSize : Nat := 8192

/-- How many bytes to read for some characters, judging by the last chunk. -/
def bytesFor (r : ChunkReader) (count : Nat) : Nat :=
  if r.lastChars < r.lastBytes then max chunkSize (r.lastBytes * count / r.lastChars)
  else chunkSize

/-- Decodes a chunk: the characters in it, and the unfinished one at its end. -/
def decode? (pending : Option Utf8.Pending) (chunk : List UInt8) :
    Option (List Char × Option Utf8.Pending) :=
  let (found, pending) := Utf8.run ([], pending) chunk
  let chars? := found.reverse.mapM fun
    | .char c => some c
    | .illFormed => none
  chars?.map fun cs => (cs, pending)

/-- Reads the next chunk; nothing if a fault of the encoding is met. At the end of the file no
character may be unfinished. -/
def next? (r : ChunkReader) (count : Nat) : Option ChunkReader := do
  let chunk := r.bytes.take (r.bytesFor count)
  let (cs, pending) ← decode? r.pending chunk
  let isEnd := chunk.isEmpty
  if isEnd && pending.isSome then none
  let cs := if r.afterReturn && (isEnd || !cs.isEmpty) then '\r' :: cs else cs
  -- a line feed may follow in the next chunk
  let afterReturn := !isEnd && cs.getLast? == some '\r' || r.afterReturn && !isEnd && cs.isEmpty
  let decoded := withLineFeeds (if afterReturn then cs.dropLast else cs)
  return {
    bytes := r.bytes.drop chunk.length
    pending, afterReturn
    ready := r.ready ++ decoded
    lastBytes := chunk.length
    lastChars := decoded.length }

/-- Reads chunks until some characters are ready, or the file is at its end. -/
def fill? (count : Nat) : (fuel : Nat) → ChunkReader → Option ChunkReader
  | 0, r => some r
  | fuel + 1, r =>
    if count ≤ r.ready.length then some r
    else do
      let next ← r.next? (count - r.ready.length)
      if r.bytes.isEmpty then return next else fill? count fuel next

/-- Hands out a block. -/
def block? (r : ChunkReader) : Option (List Char × ChunkReader) := do
  let r ← r.fill? blockSize (r.bytes.length + 1)
  return (r.ready.take blockSize, { r with ready := r.ready.drop blockSize })

/-- The blocks of what is left of a file; the last part tells whether no fault was met. -/
def blocksFrom : (fuel : Nat) → ChunkReader → List (List Char) × Bool
  | 0, _ => ([], true)
  | fuel + 1, r =>
    match r.block? with
    | none => ([], false)
    | some (block, rest) =>
      if block.isEmpty then ([], true)
      else
        let (blocks, isWhole) := blocksFrom fuel rest
        (block :: blocks, isWhole)

/-- The blocks of a file. -/
def blocks (bytes : List UInt8) : List (List Char) × Bool :=
  blocksFrom (bytes.length + 1) { bytes }

end ChunkReader

end SecretScan.Text
