import SecretScan.Pattern.Node

/-!
# Matching

`Node.run` looks for a way to match a node at a position and to go on from there: the
continuation `next` is tried at each end of the node, in the order of preference, until it
succeeds. So a match is the first in the order of preference, and search backtracks where the
rest of the pattern fails.

`Pattern.search` finds the leftmost match and `Pattern.findAll` all matches from left to right,
none of which overlaps the one before.
-/

namespace SecretScan.Pattern

/-- The text that is searched. -/
abbrev Subject := Array Char

/-- The part of a subject from `start` to before `stop`. -/
structure Span where
  start : Nat
  stop : Nat
  deriving DecidableEq, Repr

/-- The text of a span. -/
def Span.text (s : Subject) (span : Span) : List Char :=
  (s.toList.drop span.start).take (span.stop - span.start)

/-- The parts of groups that took part so far, the latest first. -/
abbrev Groups := List (Nat × Span)

/-- How a match ends: where, and with which groups. -/
abbrev End := Nat × Groups

/-- What is tried after a node has matched. -/
abbrev Next := Nat → Groups → Option End

/-- How many characters of a set stand at `pos` in a row, up to `limit`. -/
def spanLength (s : Subject) (set : CharSet) (limit pos : Nat) : Nat :=
  go limit 0
where
  /-- Counts on from `found`. -/
  go : Nat → Nat → Nat
    | 0, found => found
    | limit + 1, found =>
      match s[pos + found]? with
      | some c => if set.contains c then go limit (found + 1) else found
      | none => found

/-- Tries `attempt` at `count`, `count - 1`, …, `count - more`. -/
def tryDown (attempt : Nat → Option End) (count : Nat) : (more : Nat) → Option End
  | 0 => attempt count
  | more + 1 =>
    match attempt count with
    | some e => some e
    | none => tryDown attempt (count - 1) more

/-- Tries `attempt` at `count`, `count + 1`, …, `count + more`. -/
def tryUp (attempt : Nat → Option End) (count : Nat) : (more : Nat) → Option End
  | 0 => attempt count
  | more + 1 =>
    match attempt count with
    | some e => some e
    | none => tryUp attempt (count + 1) more

/-- Matches characters of a set in a row. -/
def runSpan (s : Subject) (set : CharSet) (min : Nat) (max : Option Nat) (order : Order)
    (pos : Nat) (groups : Groups) (next : Next) : Option End :=
  -- of a single character only the count matters, so no round needs to be remembered
  let room := s.size - pos
  let count := spanLength s set (match max with | some m => Nat.min m room | none => room) pos
  if count < min then none
  else
    let attempt := fun n => next (pos + n) groups
    match order with
    | .greedy => tryDown attempt count (count - min)
    | .lazy => tryUp attempt min (count - min)

/-- Matches a part `count` times. -/
def runTimes (body : Nat → Groups → Next → Option End) :
    (count : Nat) → Nat → Groups → Next → Option End
  | 0, pos, groups, next => next pos groups
  | count + 1, pos, groups, next =>
    body pos groups fun pos groups => runTimes body count pos groups next

/-- Matches a part up to `rounds` times more. A round that would start where the round before it
started is not begun, as it could go on for ever. -/
def runMore (body : Nat → Groups → Next → Option End) (order : Order) :
    (rounds : Nat) → (last : Option Nat) → Nat → Groups → Next → Option End
  | 0, _, pos, groups, next => next pos groups
  | rounds + 1, last, pos, groups, next =>
    if last = some pos then next pos groups
    else
      -- held back, as a lazy repetition may do without it
      let again := fun (_ : Unit) => body pos groups fun pos' groups =>
        runMore body order rounds (some pos) pos' groups next
      match order with
      | .greedy =>
        match again () with
        | some e => some e
        | none => next pos groups
      | .lazy =>
        match next pos groups with
        | some e => some e
        | none => again ()

/-- Is there a word character right before (`offset = 1`) or at (`offset = 0`) the position? -/
def wordAt (s : Subject) (ascii : Bool) (pos offset : Nat) : Bool :=
  let p : Property := if ascii then .asciiWord else .word
  offset ≤ pos && (s[pos - offset]?).any p.holds

/-- Does the position meet the condition? -/
def Anchor.holds (s : Subject) (pos : Nat) : Anchor → Bool
  | .textStart => pos == 0
  | .lineStart => pos == 0 || s[pos - 1]? == some '\n'
  | .textEnd => pos == s.size
  | .lastLineEnd => pos == s.size || (pos + 1 == s.size && s[pos]? == some '\n')
  | .lineEnd => pos == s.size || s[pos]? == some '\n'
  | .word boundary ascii =>
    s.size != 0 && ((wordAt s ascii pos 1 != wordAt s ascii pos 0) == boundary)

/-- Does `text` stand at the position? -/
def standsAt (s : Subject) (comparison : Comparison) (pos : Nat) : List Char → Bool
  | [] => true
  | c :: cs =>
    match s[pos]? with
    | some d => comparison.key c == comparison.key d && standsAt s comparison (pos + 1) cs
    | none => false

/-- Matches a node at `pos` and goes on with `next`. -/
def Node.run (s : Subject) : Node → Nat → Groups → Next → Option End
  | .empty, pos, groups, next => next pos groups
  | .one set, pos, groups, next =>
    match s[pos]? with
    | some c => if set.contains c then next (pos + 1) groups else none
    | none => none
  | .span set min max order, pos, groups, next => runSpan s set min max order pos groups next
  | .seq first second, pos, groups, next =>
    first.run s pos groups fun pos groups => second.run s pos groups next
  | .either first second, pos, groups, next =>
    match first.run s pos groups next with
    | some e => some e
    | none => second.run s pos groups next
  | .group index body, pos, groups, next =>
    body.run s pos groups fun pos' groups => next pos' ((index, ⟨pos, pos'⟩) :: groups)
  | .repeated body min max order, pos, groups, next =>
    runTimes (body.run s) min pos groups fun pos groups =>
      let rounds := match max with
        | some m => Nat.min (m - min) (s.size - pos + 1)
        | none => s.size - pos + 1
      runMore (body.run s) order rounds none pos groups next
  | .anchor a, pos, groups, next => if a.holds s pos then next pos groups else none
  | .look side negated body, pos, groups, next =>
    let found := match side with
      | .ahead => body.run s pos groups fun pos groups => some (pos, groups)
      | .behind width =>
        if width ≤ pos then body.run s (pos - width) groups fun pos groups => some (pos, groups)
        else none
    match found with
    -- the position stays; groups that took part in what was found do as well
    | some (_, groups') => if negated then none else next pos groups'
    | none => if negated then next pos groups else none
  | .again index comparison, pos, groups, next =>
    match groups.lookup index with
    | some part =>
      if standsAt s comparison pos (part.text s) then next (pos + (part.stop - part.start)) groups
      else none
    | none => none
  | .ifGroup index yes no, pos, groups, next =>
    if (groups.lookup index).isSome then yes.run s pos groups next else no.run s pos groups next
  | .atomic body, pos, groups, next =>
    match body.run s pos groups fun pos groups => some (pos, groups) with
    | some (pos, groups) => next pos groups
    | none => none

/-- A match: the whole of it and its groups. -/
structure Match where
  span : Span
  groups : Groups
  deriving Repr

/-- The part that a group matched, if it took part; group zero is the whole match. -/
def Match.group? (m : Match) (index : Nat) : Option Span :=
  if index = 0 then some m.span else m.groups.lookup index

end SecretScan.Pattern

namespace SecretScan

/-- A pattern: its text, its syntax tree and how many groups it has. -/
structure Pattern where
  source : String
  root : Pattern.Node
  groupCount : Nat
  deriving Repr

namespace Pattern

/-- The match that starts at `pos`, if there is one. With `advance` it must not be empty. -/
def matchAt (p : Pattern) (s : Subject) (advance : Bool) (pos : Nat) : Option Match :=
  let accept : Next := fun stop groups => if advance && stop == pos then none else some (stop, groups)
  (p.root.run s pos [] accept).map fun (stop, groups) => ⟨⟨pos, stop⟩, groups⟩

/-- The leftmost match. -/
def search (p : Pattern) (s : Subject) : Option Match :=
  (List.range (s.size + 1)).findSome? (p.matchAt s false)

/-- Does the pattern match somewhere? -/
def occursIn (p : Pattern) (s : Subject) : Bool :=
  (p.search s).isSome

/-- The matches that start at `pos`: at most one, and after an empty one perhaps another that is
not empty. -/
def matchesAt (p : Pattern) (s : Subject) (pos : Nat) : List Match :=
  match p.matchAt s false pos with
  | none => []
  | some m => if m.span.stop = pos then m :: (p.matchAt s true pos).toList else [m]

/-- What is known after the positions looked at so far: where the next match may start, and the
matches found. -/
structure Progress where
  free : Nat
  found : Array Match

/-- Looks at one more position. -/
def Progress.step (p : Pattern) (s : Subject) (state : Progress) (pos : Nat) : Progress :=
  if pos < state.free then state
  else
    let ms := p.matchesAt s pos
    ⟨(ms.getLast?.map (·.span.stop)).getD state.free, state.found ++ ms.toArray⟩

/-- All matches from left to right, none of which overlaps the one before. -/
def findAll (p : Pattern) (s : Subject) : List Match :=
  ((List.range (s.size + 1)).foldl (Progress.step p s) ⟨0, #[]⟩).found.toList

end Pattern

end SecretScan
