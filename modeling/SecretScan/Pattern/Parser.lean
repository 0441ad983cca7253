import SecretScan.Decimal.Reading
import SecretScan.Pattern.Error
import SecretScan.Pattern.Matching
import SecretScan.Text.CharNames
import SecretScan.Text.Identifier

/-!
# Reading patterns

A recursive descent over the text of a pattern. The text is read in tokens: a character, or a
backslash with the character after it. Reading a token looks at the next one, so a backslash at
the very end is refused as soon as the token before it is taken.

`Pattern.parse` gives the syntax tree or the first fault met from left to right; only then come
the references to groups that do not exist, and what is well-formed but cannot be matched: a
look-behind without a fixed length, and a repetition in a template. The depth of the descent is
bounded by the length of the text.
-/

namespace SecretScan

namespace Pattern

open SecretScan.Text

/-- A character of a pattern, alone or after a backslash. -/
inductive Token where
  | plain (c : Char)
  | escaped (c : Char)
  deriving DecidableEq, Repr

/-- The characters of a token. -/
def Token.chars : Token → List Char
  | .plain c => [c]
  | .escaped c => ['\\', c]

/-- The text of a token. -/
def Token.text (t : Token) : String :=
  String.ofList t.chars

/-- What is left of a pattern, and where it starts. -/
structure Source where
  pos : Nat
  rest : List Char

/-- The next token. -/
def Source.next? (s : Source) : Option Token :=
  match s.rest with
  | [] => none
  | '\\' :: c :: _ => some (.escaped c)
  | c :: _ => some (.plain c)

/-- Settings that hold for a part of a pattern. -/
structure Flags where
  ignoreCase : Bool := false
  multiline : Bool := false
  dotAll : Bool := false
  verbose : Bool := false
  ascii : Bool := false
  unicode : Bool := false
  template : Bool := false
  deriving DecidableEq, Repr

/-- The part of a pattern read so far, as far as the rest depends on it. -/
structure ParseState where
  source : Source
  flags : Flags := {}
  /-- How many groups have been opened. -/
  opened : Nat := 0
  /-- The widths of the groups that have been closed. -/
  closed : List (Nat × Width) := []
  names : List (String × Nat) := []
  /-- Inside a look-behind, how many groups were open before it. -/
  lookbehind : Option Nat := none
  /-- Conditions on groups by number, with their positions. -/
  conditions : List (Nat × Nat) := []
  /-- What cannot be matched, and where it starts; the last one read comes first. -/
  unmatchable : List (Nat × Reason) := []

/-- Reading a part of a pattern. -/
abbrev Parse := StateT ParseState (Except Error)

namespace Parse

/-- Refuses the pattern, at a position `back` before the next token. -/
def fail {α : Type} (reason : Reason) (back : Nat := 0) : Parse α := do
  throw (.malformed reason (some ((← get).source.pos - back)))

/-- Refuses the pattern at a given position. -/
def failAt {α : Type} (reason : Reason) (pos : Nat) : Parse α :=
  throw (.malformed reason (some pos))

/-- Notes what cannot be matched. It is refused in the end, if nothing else is wrong. -/
def noteUnmatchable (start : Nat) (reason : Reason) : Parse Unit :=
  modify fun s => { s with unmatchable := (start, reason) :: s.unmatchable }

/-- The position of the next token. -/
def position : Parse Nat := do
  return (← get).source.pos

/-- The next token, which stays. -/
def peek : Parse (Option Token) := do
  return (← get).source.next?

/-- Goes to a place in the pattern; a lone backslash must not stand there. -/
def goTo (source : Source) : Parse Unit := do
  if source.rest = ['\\'] then throw (.malformed .escapeAtEnd (some source.pos))
  modify fun s => { s with source }

/-- Takes the next token. -/
def take : Parse (Option Token) := do
  let source := (← get).source
  match source.next? with
  | none => return none
  | some t =>
    let n := t.chars.length
    goTo ⟨source.pos + n, source.rest.drop n⟩
    return some t

/-- Takes the next token if it is this character. -/
def accept (c : Char) : Parse Bool := do
  if (← peek) = some (.plain c) then
    let _ ← take
    return true
  else return false

/-- Takes at most `limit` characters of a kind. -/
def takeWhile (p : Char → Bool) : (limit : Nat) → Parse (List Char)
  | 0 => return []
  | limit + 1 => do
    match ← peek with
    | some (.plain c) =>
      if p c then
        let _ ← take
        return c :: (← takeWhile p limit)
      else return []
    | _ => return []

/-- Takes a name up to `terminator`, which is taken too; `taken` is the name so far, in reverse. -/
def takeName (terminator : Char) (what : String) : (fuel : Nat) → (taken : List Char) → Parse String
  | 0, taken => return String.ofList taken.reverse
  | fuel + 1, taken => do
    match ← take with
    | none =>
      if taken.isEmpty then fail (.missing what)
      else fail (.unterminatedName terminator) taken.length
    | some t =>
      if t = .plain terminator then
        if taken.isEmpty then fail (.missing what) 1
        else return String.ofList taken.reverse
      else takeName terminator what fuel (t.chars.reverse ++ taken)

/-- Takes a name up to `terminator`. -/
def name (terminator : Char) (what : String := "group name") : Parse String := do
  takeName terminator what ((← get).source.rest.length + 1) []

end Parse

open Parse

/-! ## Escapes -/

/-- What an escape stands for. -/
inductive Escape where
  | code (n : Nat)
  | property (p : Property) (negated : Bool)
  | anchor (a : Anchor)
  | reference (index : Nat)

/-- Is this one of the eight octal digits? -/
def isOctalDigit (c : Char) : Bool :=
  '0' ≤ c && c ≤ '7'

/-- The value of octal digits. -/
def octalNumber (ds : List Char) : Nat :=
  ds.foldl (fun n d => 8 * n + (d.toNat - 48)) 0

/-- The property that an escape names, if it names one. -/
def propertyEscape? (ascii : Bool) (c : Char) : Option Escape :=
  let pick := fun (p q : Property) negated => some (Escape.property (if ascii then q else p) negated)
  match c with
  | 'd' => pick .digit .asciiDigit false
  | 'D' => pick .digit .asciiDigit true
  | 's' => pick .blank .asciiBlank false
  | 'S' => pick .blank .asciiBlank true
  | 'w' => pick .word .asciiWord false
  | 'W' => pick .word .asciiWord true
  | _ => none

/-- The anchor that an escape names, if it names one. -/
def anchorEscape? (ascii : Bool) (c : Char) : Option Escape :=
  match c with
  | 'A' => some (.anchor .textStart)
  | 'b' => some (.anchor (.word true ascii))
  | 'B' => some (.anchor (.word false ascii))
  | 'Z' => some (.anchor .textEnd)
  | _ => none

/-- The control character that an escape names, if it names one. -/
def controlEscape? (c : Char) : Option Escape :=
  match c with
  | 'a' => some (.code 7)
  | 'b' => some (.code 8)
  | 'f' => some (.code 12)
  | 'n' => some (.code 10)
  | 'r' => some (.code 13)
  | 't' => some (.code 9)
  | 'v' => some (.code 11)
  | '\\' => some (.code 92)
  | _ => none

/-- An escape of exactly `count` hexadecimal digits after the letter `c`. -/
def hexEscape (c : Char) (count : Nat) : Parse Escape := do
  let ds ← Parse.takeWhile CharRanges.isHexDigit count
  let escape := String.ofList ('\\' :: c :: ds)
  if ds.length ≠ count then fail (.incompleteEscape escape) (ds.length + 2)
  let n := CharRanges.hexNumber ds
  if 0x7FFFFFFF < n then throw .characterTooLarge
  if n < 0x110000 then return .code n else fail (.badEscape escape) (ds.length + 2)

/-- An escape by the name of a character. -/
def namedEscape : Parse Escape := do
  if !(← accept '{') then fail (.missing "\x7b")
  let n ← name '}' "character name"
  match Text.codeNamed? n with
  | some code => return .code code
  | none => fail (.undefinedCharacterName n) (n.length + 4)

/-- An octal escape with at most three digits, the first of which is given. -/
def octalEscape (ds : List Char) : Parse Escape := do
  let n := octalNumber ds
  if n ≤ 0o377 then return .code n
  else fail (.octalTooLarge (String.ofList ('\\' :: ds))) (ds.length + 1)

/-- The escapes by number that sets and the rest of a pattern have in common. -/
def numberedEscape? (c : Char) : Option (Parse Escape) :=
  match c with
  | 'x' => some (hexEscape c 2)
  | 'u' => some (hexEscape c 4)
  | 'U' => some (hexEscape c 8)
  | 'N' => some namedEscape
  | _ => none

/-- An escape that stands for its character, unless that is a letter or a digit. -/
def literalEscape (c : Char) : Parse Escape := do
  if c.isAlphanum then fail (.badEscape (String.ofList ['\\', c])) 2
  else return .code c.toNat

/-- An escape within a set. -/
def setEscape (c : Char) : Parse Escape := do
  match controlEscape? c <|> propertyEscape? (← get).flags.ascii c with
  | some e => return e
  | none =>
    match numberedEscape? c with
    | some e => e
    | none =>
      if isOctalDigit c then
        let more ← Parse.takeWhile isOctalDigit 2
        octalEscape (c :: more)
      else literalEscape c

/-- Refuses a reference to a group that is open, or that belongs to the look-behind around it;
`back` is where the reference starts. -/
def checkReference (index back : Nat) : Parse Unit := do
  let s ← get
  if (s.closed.lookup index).isNone then fail .openGroup back
  if s.lookbehind.any (· ≤ index) then fail .groupOfSameLookbehind

/-- A reference to a group by number. -/
def numberedReference (ds : List Char) : Parse Escape := do
  let index := Decimal.digitsValue ds
  if index ≤ (← get).opened then
    checkReference index (ds.length + 1)
    return .reference index
  else fail (.invalidGroupReference index) ds.length

/-- An escape that starts with a digit other than zero: three octal digits are a character,
anything else refers to a group. -/
def digitEscape (c : Char) : Parse Escape := do
  let more ← Parse.takeWhile Char.isDigit 1
  match more with
  | [d] =>
    if isOctalDigit c && isOctalDigit d then
      let last ← Parse.takeWhile isOctalDigit 1
      match last with
      | [e] => octalEscape [c, d, e]
      | _ => numberedReference [c, d]
    else numberedReference [c, d]
  | _ => numberedReference [c]

/-- An escape outside of sets. -/
def escape (c : Char) : Parse Escape := do
  let ascii := (← get).flags.ascii
  match anchorEscape? ascii c <|> propertyEscape? ascii c <|> controlEscape? c with
  | some e => return e
  | none =>
    match numberedEscape? c with
    | some e => e
    | none =>
      if c == '0' then
        let more ← Parse.takeWhile isOctalDigit 2
        return .code (octalNumber more)
      else if c.isDigit then digitEscape c
      else literalEscape c

/-! ## Sets -/

/-- How characters are compared under some flags. -/
def Flags.comparison (f : Flags) : Comparison :=
  if f.ignoreCase then (if f.ascii then .ignoringAsciiCase else .ignoringCase) else .exact

/-- A node that matches one listed character. -/
def oneOf (items : List SetItem) (negated : Bool) : Parse Node := do
  return .one { items, negated, comparison := (← get).flags.comparison }

/-- A member of a set: a single code point or a property. -/
inductive Member where
  | code (n : Nat)
  | item (i : SetItem)

/-- The member as an item of a set. -/
def Member.toItem : Member → SetItem
  | .code n => .range n n
  | .item i => i

/-- The member that a token stands for. -/
def member : Token → Parse Member
  | .plain c => return .code c.toNat
  | .escaped c => do
    match ← setEscape c with
    | .code n => return .code n
    | .property p negated => return .item (.property p negated)
    | _ => fail (.badEscape (String.ofList ['\\', c])) 2

/-- The items of a set up to its bracket; `items` are those read so far, in reverse, and `start` is
where the set starts. -/
def setItems (start : Nat) : (fuel : Nat) → (items : List SetItem) → Parse (List SetItem)
  | 0, _ => failAt .unterminatedSet start
  | fuel + 1, items => do
    match ← take with
    | none => failAt .unterminatedSet start
    | some this =>
      if this = .plain ']' && !items.isEmpty then return items.reverse
      let first ← member this
      if !(← accept '-') then setItems start fuel (first.toItem :: items)
      else
        match ← take with
        | none => failAt .unterminatedSet start
        | some that =>
          if that = .plain ']' then return (first.toItem :: items).reverse ++ [.range 45 45]
          let last ← member that
          let bad := fail (.badRange this.text that.text) (this.chars.length + 1 + that.chars.length)
          match first, last with
          | .code lo, .code hi =>
            if hi < lo then bad else setItems start fuel (.range lo hi :: items)
          | _, _ => bad

/-- A set, after its opening bracket. -/
def charSet : Parse Node := do
  let start := (← position) - 1
  let negated ← accept '^'
  let items ← setItems start ((← get).source.rest.length + 1) []
  oneOf items negated

/-! ## Repetition -/

/-- What the last thing read was, as far as a repetition sign after it cares. -/
inductive Kind where
  | anchor
  | repetition
  | other (start : Nat)
  deriving DecidableEq

/-- Repetition counts from this one on are too large. -/
def repeatLimit : Nat := 4294967295

/-- The value of a repetition count; none if there is no digit. -/
def repetitionCount (ds : List Char) : Parse (Option Nat) := do
  if ds.isEmpty then return none
  if Decimal.maxWholeDigits < ds.length then throw .repetitionTooLong
  let n := Decimal.digitsValue ds
  if repeatLimit ≤ n then throw .repetitionTooLarge
  return some n

/-- The counts in braces, after the opening one; none if the braces are no repetition. -/
def bounds : Parse (Option (Nat × Option Nat)) := do
  let source := (← get).source
  if (← peek) = some (.plain '}') then return none
  let fuel := source.rest.length
  let lo ← Parse.takeWhile Char.isDigit fuel
  let comma ← accept ','
  let hi ← if comma then Parse.takeWhile Char.isDigit fuel else pure lo
  -- no repetition: the brace stands for itself, and is read on from there
  if !(← accept '}') then
    goTo source
    return none
  let min := (← repetitionCount lo).getD 0
  let max ← repetitionCount hi
  if max.any (· < min) then failAt .minAboveMax source.pos
  return some (min, max)

/-- What the sign after a repetition asks for. -/
inductive Manner where
  | greedy
  | lazy
  /-- As much as there is, and no less when the rest fails. -/
  | possessive
  deriving DecidableEq

/-- The operator of a repetition. -/
def Manner.operator : Manner → String
  | .greedy => "MAX_REPEAT"
  | .lazy => "MIN_REPEAT"
  | .possessive => "POSSESSIVE_REPEAT"

/-- The manner that the sign after a repetition asks for. -/
def manner : Parse Manner := do
  if ← accept '?' then return .lazy
  else if ← accept '+' then return .possessive
  else return .greedy

/-- A node repeated in an order. -/
def Node.inOrder (body : Node) (min : Nat) (max : Option Nat) (order : Order) : Node :=
  match body with
  | .one set => .span set min max order
  | _ => .repeated body min max order

/-- A node repeated. Of a possessive repetition each round is final, and so is the whole. -/
def Node.repeat (body : Node) (min : Nat) (max : Option Nat) : Manner → Node
  | .greedy => body.inOrder min max .greedy
  | .lazy => body.inOrder min max .lazy
  | .possessive =>
    match body with
    | .one set => .atomic (.span set min max .greedy)
    | _ => .atomic (.repeated (.atomic body) min max .greedy)

/-- Puts a repetition around the last node; `start` is where its sign stands. -/
def repeatLast (start min : Nat) (max : Option Nat) (items : List (Kind × Node)) :
    Parse (List (Kind × Node)) := do
  match items with
  | [] => failAt .nothingToRepeat start
  | (.anchor, _) :: _ => failAt .nothingToRepeat start
  | (.repetition, _) :: _ => failAt .multipleRepeat start
  | (.other first, body) :: rest =>
    let manner ← manner
    if (← get).flags.template then noteUnmatchable first (.templateOperator manner.operator)
    return (.repetition, body.repeat min max manner) :: rest

/-! ## Flags -/

/-- The letters of flags. -/
inductive Flag where
  | ignoreCase | locale | multiline | dotAll | verbose | ascii | template | unicode
  deriving DecidableEq

/-- The flag of a letter. -/
def Flag.ofToken? : Token → Option Flag
  | .plain 'i' => some .ignoreCase
  | .plain 'L' => some .locale
  | .plain 'm' => some .multiline
  | .plain 's' => some .dotAll
  | .plain 'x' => some .verbose
  | .plain 'a' => some .ascii
  | .plain 't' => some .template
  | .plain 'u' => some .unicode
  | _ => none

/-- Does the flag choose an alphabet? -/
def Flag.isType (f : Flag) : Bool :=
  f == .ascii || f == .unicode || f == .locale

/-- Sets a flag. -/
def Flags.with (f : Flags) (value : Bool) : Flag → Flags
  | .ignoreCase => { f with ignoreCase := value }
  | .multiline => { f with multiline := value }
  | .dotAll => { f with dotAll := value }
  | .verbose => { f with verbose := value }
  | .ascii => { f with ascii := value }
  | .unicode => { f with unicode := value }
  | .template => { f with template := value }
  | .locale => f

/-- Flags that hold for the whole pattern or for one group. -/
inductive FlagScope where
  | whole (on : List Flag)
  | group (on off : List Flag)

/-- Is the token a letter, of any alphabet? -/
def Token.isLetter (t : Token) : Bool :=
  t.chars.all isAlphanumeric && !t.chars.any isDecimal

/-- Refuses a token where a flag, or `what`, was expected. -/
def refuseFlag {α : Type} (t : Token) (what : String) : Parse α :=
  fail (if t.isLetter then .unknownFlag else .missing what) t.chars.length

/-- The letters of flags turned on, and the token after them. -/
def flagsOn : (fuel : Nat) → Token → List Flag → Parse (List Flag × Token)
  | 0, t, on => return (on, t)
  | fuel + 1, t, on => do
    match Flag.ofToken? t with
    | none => return (on, t)
    | some f =>
      if f = .locale then fail .localeFlag
      if f.isType && on.any (fun g => g.isType && g != f) then fail .incompatibleFlags
      match ← take with
      | none => fail (.missing "-, : or )")
      | some t' =>
        if t' = .plain ')' || t' = .plain '-' || t' = .plain ':' then return (f :: on, t')
        else if (Flag.ofToken? t').isNone then refuseFlag t' "-, : or )"
        else flagsOn fuel t' (f :: on)

/-- The letters of flags turned off, up to the colon. -/
def flagsOff : (fuel : Nat) → Token → List Flag → Parse (List Flag)
  | 0, _, off => return off
  | fuel + 1, t, off => do
    match Flag.ofToken? t with
    | none => return off
    | some f =>
      if f.isType then fail .typeFlagOff
      match ← take with
      | none => fail (.missing ":")
      | some t' =>
        if t' = .plain ':' then return f :: off
        else if (Flag.ofToken? t').isNone then refuseFlag t' ":"
        else flagsOff fuel t' (f :: off)

/-- The flags of a group, from the first token after its question mark. -/
def flagScope (t : Token) : Parse FlagScope := do
  let fuel := (← get).source.rest.length + 1
  let (on, stop) ← flagsOn fuel t []
  if stop = .plain ')' then return .whole on
  if on.contains .template then fail .globalFlagOn 1
  if stop = .plain ':' then return .group on []
  match ← take with
  | none => fail (.missing "flag")
  | some t' =>
    if (Flag.ofToken? t').isNone then refuseFlag t' "flag"
    let off ← flagsOff fuel t' []
    if off.contains .template then fail .globalFlagOff 1
    if on.any off.contains then fail .flagOnAndOff 1
    return .group on off

/-- The flags of a group within one that has flags `f`. A choice of alphabet replaces the one
before it. -/
def Flags.within (f : Flags) (on off : List Flag) : Flags :=
  -- one alphabet at a time
  let base := if on.any (·.isType) then { f with ascii := false, unicode := false } else f
  let raised := on.foldl (fun f g => f.with true g) base
  off.foldl (fun f g => f.with false g) raised

/-! ## Groups -/

/-- Skips to the end of a comment in parentheses that starts at `start`. -/
def skipComment (start : Nat) : (fuel : Nat) → Parse Unit
  | 0 => failAt .unterminatedComment start
  | fuel + 1 => do
    if (← peek).isNone then failAt .unterminatedComment start
    if (← take) = some (.plain ')') then return () else skipComment start fuel

/-- Skips to the end of a line. -/
def skipLine : (fuel : Nat) → Parse Unit
  | 0 => return ()
  | fuel + 1 => do
    match ← take with
    | none => return ()
    | some t => if t = .plain '\n' then return () else skipLine fuel

/-- The blanks that a verbose pattern may hold anywhere. -/
def isVerboseBlank (c : Char) : Bool :=
  isAsciiBlank c

/-- Opens a group; its number. -/
def openGroup (name? : Option String) : Parse Nat := do
  let s ← get
  let index := s.opened + 1
  match name? with
  | none => set { s with opened := index }
  | some n =>
    match s.names.lookup n with
    | some earlier => fail (.redefinedGroup n index earlier) (n.length + 1)
    | none => set { s with opened := index, names := (n, index) :: s.names }
  return index

/-- Closes a group. -/
def closeGroup (index : Nat) (body : Node) : Parse Unit :=
  modify fun s => { s with closed := (index, body.width s.closed) :: s.closed }

/-- Refuses a name that is no identifier, right after its terminator. -/
def checkName (n : String) : Parse Unit := do
  if !isIdentifier n.toList then fail (.badGroupName n) (n.length + 1)

/-- A reference to a group by name. -/
def namedReference : Parse Node := do
  let n ← name ')'
  checkName n
  match (← get).names.lookup n with
  | none => fail (.unknownGroupName n) (n.length + 1)
  | some index =>
    checkReference index (n.length + 1)
    return .again index (← get).flags.comparison

/-- The group that a condition asks about. -/
def condition : Parse Nat := do
  let n ← name ')'
  let back := n.length + 1
  let index ←
    if isIdentifier n.toList then
      match (← get).names.lookup n with
      | none => fail (.unknownGroupName n) back
      | some index => pure index
    else
      match Decimal.readWhole? n.toList with
      | none => fail (.badGroupName n) back
      | some i =>
        if i < 0 then fail (.badGroupName n) back
        if i = 0 then fail .badGroupNumber back
        let here := (← position) - back
        modify fun s =>
          if (s.conditions.lookup i.toNat).isSome then s
          else { s with conditions := (i.toNat, here) :: s.conditions }
        pure i.toNat
  let s ← get
  if s.lookbehind.isSome then
    if (s.closed.lookup index).isNone then fail .openGroup
    if s.lookbehind.any (· ≤ index) then fail .groupOfSameLookbehind
  return index

/-- Expects the end of a group that starts at `start`. -/
def endGroup (start : Nat) : Parse Unit := do
  if !(← accept ')') then failAt .unterminatedGroup start

/-- Reads something under other flags. -/
def underFlags {α : Type} (flags : Flags) (p : Parse α) : Parse α := do
  let before := (← get).flags
  modify fun s => { s with flags }
  let a ← p
  modify fun s => { s with flags := before }
  return a

/-- Reads the body of a look-behind. -/
def inLookbehind (p : Parse Node) : Parse Node := do
  let before := (← get).lookbehind
  if before.isNone then modify fun s => { s with lookbehind := some (s.opened + 1) }
  let n ← p
  if before.isNone then modify fun s => { s with lookbehind := none }
  return n

/-- A look-behind at the body, that starts at `start`. -/
def behind (start : Nat) (negated : Bool) (body : Node) : Parse Node := do
  match (body.width (← get).closed).fixed? with
  | some width => return .look (.behind width) negated body
  | none =>
    noteUnmatchable start .looseLookbehind
    return .look (.behind 0) negated body

/-- What an opening parenthesis can lead to. -/
inductive GroupPart where
  /-- Nothing to match: a comment, or flags for the whole pattern. -/
  | nothing
  | node (n : Node)

/-- The node that an escape stands for, and its kind; the escape starts at `start`. -/
def Escape.toNode (start : Nat) : Escape → Parse (Kind × Node)
  | .code n => do return (.other start, ← oneOf [.range n n] false)
  | .property p negated => do return (.other start, ← oneOf [.property p negated] false)
  | .anchor a => return (.anchor, .anchor a)
  | .reference index => do return (.other start, .again index (← get).flags.comparison)

mutual

/-- Alternatives up to the end of a group or of the pattern. `top` holds outside of all groups. -/
def alternatives (fuel : Nat) (top first : Bool) : Parse (List Node) :=
  match fuel with
  | 0 => return []
  | fuel + 1 => do
    -- flags for the whole pattern may stand in its first alternative only
    let n ← sequence fuel (top && first) []
    if ← accept '|' then return n :: (← alternatives fuel top false)
    else return [n]

/-- The nodes of one alternative, one after the other; `items` are those read so far, in reverse.
At the start of the pattern (`first`) flags may be set for all of it. -/
def sequence (fuel : Nat) (first : Bool) (items : List (Kind × Node)) : Parse Node :=
  match fuel with
  | 0 => return .ofList (items.reverse.map (·.2))
  | fuel + 1 => do
    match ← peek with
    | none => return .ofList (items.reverse.map (·.2))
    | some this =>
      if this = .plain '|' || this = .plain ')' then return .ofList (items.reverse.map (·.2))
      let start ← position
      let _ ← take
      let flags := (← get).flags
      match this with
      | .escaped c =>
        let item ← (← escape c).toNode start
        sequence fuel first (item :: items)
      | .plain c =>
        if flags.verbose && isVerboseBlank c then sequence fuel first items
        else if flags.verbose && c == '#' then
          skipLine fuel
          sequence fuel first items
        else
          match c with
          | '[' =>
            let n ← charSet
            sequence fuel first ((.other start, n) :: items)
          | '*' => sequence fuel first (← repeatLast start 0 none items)
          | '+' => sequence fuel first (← repeatLast start 1 none items)
          | '?' => sequence fuel first (← repeatLast start 0 (some 1) items)
          | '{' =>
            match ← bounds with
            | some (min, max) => sequence fuel first (← repeatLast start min max items)
            | none => sequence fuel first ((.other start, ← oneOf [.range c.toNat c.toNat] false) :: items)
          | '.' =>
            let n := Node.one (if flags.dotAll then .all else .notLineFeed)
            sequence fuel first ((.other start, n) :: items)
          | '^' =>
            let a := if flags.multiline then Anchor.lineStart else .textStart
            sequence fuel first ((.anchor, .anchor a) :: items)
          | '$' =>
            let a := if flags.multiline then Anchor.lineEnd else .lastLineEnd
            sequence fuel first ((.anchor, .anchor a) :: items)
          | '(' =>
            match ← group fuel start (first && items.isEmpty) with
            | .nothing => sequence fuel first items
            | .node n => sequence fuel first ((.other start, n) :: items)
          | _ => sequence fuel first ((.other start, ← oneOf [.range c.toNat c.toNat] false) :: items)

/-- A group that starts at `start`, after its opening parenthesis. -/
def group (fuel : Nat) (start : Nat) (atStart : Bool) : Parse GroupPart :=
  match fuel with
  | 0 => return .nothing
  | fuel + 1 => do
    if !(← accept '?') then return .node (← capturing fuel start none)
    match ← take with
    | none => fail .unexpectedEnd
    | some (.plain 'P') =>
      if ← accept '<' then
        let n ← name '>'
        checkName n
        return .node (← capturing fuel start (some n))
      else if ← accept '=' then return .node (← namedReference)
      else
        match ← take with
        | none => fail .unexpectedEnd
        | some t => fail (.unknownExtension ("P" ++ t.text)) (t.chars.length + 2)
    | some (.plain ':') => return .node (← inner fuel start)
    | some (.plain '#') =>
      skipComment start fuel
      return .nothing
    | some (.plain '=') => return .node (.look .ahead false (← inner fuel start))
    | some (.plain '!') => return .node (.look .ahead true (← inner fuel start))
    | some (.plain '<') =>
      match ← take with
      | none => fail .unexpectedEnd
      | some (.plain '=') => return .node (← behind start false (← inLookbehind (inner fuel start)))
      | some (.plain '!') => return .node (← behind start true (← inLookbehind (inner fuel start)))
      | some t => fail (.unknownExtension ("<" ++ t.text)) (t.chars.length + 2)
    | some (.plain '(') =>
      let index ← condition
      let yes ← sequence fuel false []
      if ← accept '|' then
        let no ← sequence fuel false []
        if (← peek) = some (.plain '|') then fail .tooManyBranches
        endGroup start
        return .node (.ifGroup index yes no)
      else
        endGroup start
        return .node (.ifGroup index yes .empty)
    | some (.plain '>') => return .node (.atomic (← inner fuel start))
    | some t =>
      if (Flag.ofToken? t).isSome || t = .plain '-' then
        match ← flagScope t with
        | .whole on =>
          if !atStart then failAt .globalFlagsNotAtStart start
          modify fun s => { s with flags := on.foldl (fun f g => f.with true g) s.flags }
          return .nothing
        | .group on off =>
          let flags := (← get).flags.within on off
          return .node (← underFlags flags (inner fuel start))
      else fail (.unknownExtension t.text) (t.chars.length + 1)

/-- The alternatives of a group that starts at `start`, and its end. -/
def inner (fuel : Nat) (start : Nat) : Parse Node :=
  match fuel with
  | 0 => return .empty
  | fuel + 1 => do
    let n := Node.firstOf (← alternatives fuel false true)
    endGroup start
    return n

/-- A group that is remembered. -/
def capturing (fuel : Nat) (start : Nat) (name? : Option String) : Parse Node :=
  match fuel with
  | 0 => return .empty
  | fuel + 1 => do
    let index ← openGroup name?
    let n ← inner fuel start
    closeGroup index n
    return .group index n

end

/-- Of what cannot be matched, what starts first. A repetition starts with what it repeats, and
comes before it. -/
def firstUnmatchable? : List (Nat × Reason) → Option Reason
  | [] => none
  | (start, reason) :: rest =>
    some ((rest.foldl (fun first next => if next.1 < first.1 then next else first)
      (start, reason)).2)

/-- A whole pattern. -/
def whole (fuel : Nat) : Parse Node := do
  let n := Node.firstOf (← alternatives fuel true true)
  let s ← get
  if s.flags.ascii && s.flags.unicode then throw .contradictoryFlags
  if (← peek).isSome then fail .unbalancedParenthesis
  match s.conditions.reverse.find? (fun (index, _) => s.opened < index) with
  | some (index, pos) => failAt (.invalidGroupReference index) pos
  | none =>
    match firstUnmatchable? s.unmatchable with
    | some reason => throw (.malformed reason none)
    | none => return n

end Pattern

/-- Reads a pattern. With `ignoreCase` it starts out ignoring case. -/
def Pattern.parse (source : String) (ignoreCase : Bool := false) :
    Except Pattern.Error Pattern := do
  let cs := source.toList
  let read : Pattern.Parse Pattern.Node := do
    Pattern.Parse.goTo ⟨0, cs⟩
    Pattern.whole (6 * cs.length + 8)
  let (root, state) ← read.run { source := ⟨0, []⟩, flags := { ignoreCase } }
  return ⟨source, root, state.opened⟩

end SecretScan
