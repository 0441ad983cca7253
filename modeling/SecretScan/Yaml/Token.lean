import SecretScan.Yaml.Input
import SecretScan.Yaml.Lexeme

/-!
# Tokens

A document as a sequence of tokens. Indentation becomes tokens that open and close blocks. A
scalar may turn out to be a key only when the colon after it is read; until then it is kept as a
`PossibleKey`, and the tokens that make it a key are put before it later.

`Token.ofInput` reads all of a text. Where no token can be read the sequence ends in `Token.fault`,
so that whoever reads it meets the fault in its place. That is where a token would be needed that
was not certain yet: it was not there, or something could still be put before it.
-/

namespace SecretScan.Yaml

/-- A part of a document. -/
inductive Token where
  | directive (d : Directive)
  | documentStart
  | documentEnd
  | blockSequenceStart
  | blockMappingStart
  | blockEnd
  | flowSequenceStart
  | flowSequenceEnd
  | flowMappingStart
  | flowMappingEnd
  | blockEntry
  | flowEntry
  | key
  | value
  | alias (name : String)
  | anchor (name : String)
  | tag (handle : Option String) (name : String)
  | scalar (text : Text.Wide) (plain : Bool)
  | fault (e : Error)
  deriving DecidableEq

/-- Something that is a key if a colon follows. -/
structure PossibleKey where
  /-- How many levels of brackets it stands in. -/
  depth : Nat
  /-- The number of its first token. -/
  position : Nat
  /-- Must it be a key? -/
  required : Bool
  index : Nat
  line : Nat
  column : Nat

/-- How far the reading of tokens has come. -/
structure Scanner where
  cursor : Cursor
  tokens : Array Token := #[]
  /-- How many levels of brackets are open. -/
  depth : Nat := 0
  /-- The column of the innermost block. -/
  indent : Int := -1
  /-- The columns of the blocks around it. -/
  outer : List Int := []
  /-- May a key start here? -/
  keyAllowed : Bool := true
  keys : List PossibleKey := []
  /-- How many tokens are certain. -/
  settled : Nat := 0

/-- A reader of tokens. What was read before a fault is kept. -/
abbrev Scan := ExceptT Error (StateM Scanner)

namespace Scan

/-- Reads a lexeme. -/
def lexeme {α : Type} (r : Read α) : Scan α := do
  let s ← get
  let (result, cursor) := r.run.run s.cursor
  set { s with cursor }
  MonadExcept.ofExcept result

/-- Adds a token. -/
def emit (t : Token) : Scan Unit :=
  modify fun s => { s with tokens := s.tokens.push t }

/-- Allows or forbids a key to start here. -/
def allowKey (allowed : Bool) : Scan Unit :=
  modify fun s => { s with keyAllowed := allowed }

/-- Does any of some possible keys have to be one? -/
def refuseRequired (keys : List PossibleKey) : Scan Unit :=
  if keys.any (·.required) then throw .malformed else return ()

/-- How far a key may be from its colon. -/
def keyReach : Nat := 1024

/-- Drops the possible keys that are too far back. -/
def dropStaleKeys : Scan Unit := do
  let s ← get
  -- a key stands on one line with its colon
  let isStale := fun (k : PossibleKey) =>
    k.line != s.cursor.line || keyReach < s.cursor.index - k.index
  refuseRequired (s.keys.filter isStale)
  set { s with keys := s.keys.filter (!isStale ·) }

/-- Drops the possible key within the innermost brackets. -/
def dropKey : Scan Unit := do
  let s ← get
  refuseRequired (s.keys.filter (·.depth == s.depth))
  set { s with keys := s.keys.filter (·.depth != s.depth) }

/-- Notes that what follows may be a key. -/
def noteKey : Scan Unit := do
  let s ← get
  if s.keyAllowed then
    dropKey
    let c := s.cursor
    -- at the column of its block there can be nothing but a key
    let required := s.depth == 0 && s.indent == Int.ofNat c.column
    let k : PossibleKey := ⟨s.depth, s.tokens.size, required, c.index, c.line, c.column⟩
    modify fun s => { s with keys := k :: s.keys }

/-- Closes the blocks that are indented more than a column. -/
def closeBlocks (column : Int) : Scan Unit :=
  modify fun s =>
    if s.depth != 0 then s
    else
      let all := s.indent :: s.outer
      let closed := all.takeWhile (column < ·)
      match all.drop closed.length with
      | [] => s
      | indent :: outer =>
        { s with
          tokens := closed.foldl (fun ts _ => ts.push .blockEnd) s.tokens
          indent, outer }

/-- Opens a block at a column, unless one is open there. -/
def openBlock (column : Nat) : Scan Bool := do
  let s ← get
  if s.indent < Int.ofNat column then
    set { s with indent := Int.ofNat column, outer := s.indent :: s.outer }
    return true
  else return false

/-- Skips blanks, comments and line ends. -/
def skipBetween : (fuel : Nat) → Scan Unit
  | 0 => return ()
  | fuel + 1 => do
    let _ ← lexeme (takeWhile (· == ' '))
    if (← lexeme peek) == some '#' then
      let _ ← lexeme (takeWhile (!isBreak ·))
    let b ← lexeme lineBreak
    if !b.isEmpty then
      if (← get).depth == 0 then allowKey true
      skipBetween fuel

/-- Skips what is before the next token. -/
def skipToToken : Scan Unit := do
  let s ← get
  if s.cursor.index == 0 && s.cursor.rest.head? == some byteOrderMark then lexeme (skip 1)
  skipBetween (s.cursor.rest.length + 1)

/-- Begins a line that stands outside all blocks. -/
def leaveBlocks : Scan Unit := do
  closeBlocks (-1)
  dropKey
  allowKey false

/-- Ends the text. -/
def finish : Scan Unit := do
  leaveBlocks
  modify fun s => { s with keys := [] }

/-- Reads a mark of a document. -/
def marker (t : Token) : Scan Unit := do
  leaveBlocks
  lexeme (skip 3)
  emit t

/-- Reads an opening bracket. -/
def opening (t : Token) : Scan Unit := do
  noteKey
  modify fun s => { s with depth := s.depth + 1, keyAllowed := true }
  lexeme (skip 1)
  emit t

/-- Reads a closing bracket. -/
def closing (t : Token) : Scan Unit := do
  dropKey
  let s ← get
  if s.depth == 0 then throw .malformed
  set { s with depth := s.depth - 1, keyAllowed := false }
  lexeme (skip 1)
  emit t

/-- Reads a comma. -/
def comma : Scan Unit := do
  allowKey true
  dropKey
  lexeme (skip 1)
  emit .flowEntry

/-- Opens a block here for a sign that needs one, if keys may start here at all. -/
def blockFor (start : Token) : Scan Unit := do
  let s ← get
  if s.depth == 0 then
    if !s.keyAllowed then throw .malformed
    if ← openBlock s.cursor.column then emit start

/-- Reads a dash. -/
def dash : Scan Unit := do
  blockFor .blockSequenceStart
  allowKey true
  dropKey
  lexeme (skip 1)
  emit .blockEntry

/-- Reads a question mark. -/
def questionMark : Scan Unit := do
  blockFor .blockMappingStart
  allowKey ((← get).depth == 0)
  dropKey
  lexeme (skip 1)
  emit .key

/-- Reads a colon. -/
def colon : Scan Unit := do
  let s ← get
  match s.keys.find? (·.depth == s.depth) with
  | some k =>
    let opened ← if s.depth == 0 then openBlock k.column else pure false
    let inserted := if opened then [Token.blockMappingStart, .key] else [.key]
    -- only now is it known to be a key: its sign goes in before it
    modify fun s => { s with
      keys := s.keys.filter (·.depth != s.depth)
      tokens := s.tokens.take k.position ++ inserted.toArray ++ s.tokens.drop k.position
      keyAllowed := false }
  | none =>
    blockFor .blockMappingStart
    allowKey ((← get).depth == 0)
    dropKey
  lexeme (skip 1)
  emit .value

/-- Reads a token that can be a key or its start. -/
def keyToken (r : Read Token) : Scan Unit := do
  noteKey
  allowKey false
  emit (← lexeme r)

/-- Reads a plain scalar. -/
def plain : Scan Unit := do
  noteKey
  let s ← get
  let (text, broken) ← lexeme (plainScalar (s.depth != 0) (s.indent + 1))
  allowKey broken
  emit (.scalar text true)

/-- Reads a block scalar. -/
def block : Scan Unit := do
  allowKey true
  dropKey
  let s ← get
  emit (.scalar (← lexeme (blockScalar s.indent)) false)

/-- Reads the token that starts with `c`. -/
def tokenAt (c : Char) : Scan Unit := do
  let next ← lexeme (peek 1)
  let s ← get
  let flow := s.depth != 0
  let atLineStart := s.cursor.column == 0
  if c == '%' && atLineStart then
    leaveBlocks
    emit (.directive (← lexeme directive))
  else if atLineStart && s.cursor.isMarker '-' then marker .documentStart
  else if atLineStart && s.cursor.isMarker '.' then marker .documentEnd
  else if c == '[' then opening .flowSequenceStart
  else if c == '\x7b' then opening .flowMappingStart
  else if c == ']' then closing .flowSequenceEnd
  else if c == '\x7d' then closing .flowMappingEnd
  else if c == ',' then comma
  else if c == '-' && endsToken next then dash
  else if c == '?' && (flow || endsToken next) then questionMark
  else if c == ':' && (flow || endsToken next) then colon
  else if c == '*' then keyToken do return .alias (← anchorName)
  else if c == '&' then keyToken do return .anchor (← anchorName)
  else if c == '!' then keyToken do
    let (handle, n) ← tag
    return .tag handle n
  else if (c == '|' || c == '>') && !flow then block
  else if c == '\'' || c == '"' then keyToken do return .scalar (← quotedScalar) false
  else if startsPlain flow c next then plain
  else throw .malformed

/-- Notes which tokens are certain: those before the first one that may become a key. -/
def settle : Scan Unit :=
  modify fun s => { s with settled := (s.keys.map (·.position)).foldl min s.tokens.size }

/-- Goes no further if more has been looked at than can be taken in. -/
def checkInput (input : Input) : Scan Unit := do
  match input.fault with
  | none => return ()
  | some e => if input.text.length < (← get).cursor.seen then throw e

/-- Reads tokens up to the end of the text. -/
def all (input : Input) : (fuel : Nat) → Scan Unit
  | 0 => return ()
  | fuel + 1 => do
    dropStaleKeys
    settle
    skipToToken
    dropStaleKeys
    checkInput input
    closeBlocks (Int.ofNat (← get).cursor.column)
    match (← get).cursor.rest.head? with
    | none => finish
    | some c =>
      tokenAt c
      checkInput input
      all input fuel

end Scan

/-- The tokens of a document. -/
def Token.ofInput (input : Input) : List Token :=
  let cursor : Cursor := { rest := input.text }
  let (result, s) := (Scan.all input (input.text.length + 1)).run.run { cursor }
  match result with
  | .ok _ => s.tokens.toList
  | .error e =>
    -- a fault of the input comes before what was made of the text up to there
    let first := if input.text.length < s.cursor.seen then input.fault.getD e else e
    s.tokens.toList.take s.settled ++ [.fault first]

end SecretScan.Yaml
