import SecretScan.IgnoreList.Glob
import SecretScan.Pattern.Parser
import SecretScan.Text.Blank
import SecretScan.Text.Lines
import SecretScan.Text.Quoted

/-!
# Ignore lists

A list of path patterns, one a line, as version control systems keep them: later lines override
earlier ones, a line that starts with an exclamation mark takes files back in, a pattern with a
slash in it is anchored at the root, and a directory stands for all below it.

`IgnoreList.ofLines` reads a list and `IgnoreList.ignores` decides on a path. A rule can match a
path as such, or by a directory above it (`Reach`); of the rules that match as such the last one
decides, and only if there is none the last one that matches by a directory.
-/

namespace SecretScan

/-- A line of an ignore list: what it matches, and whether that is ignored or taken back in. The
first group of the pattern marks a match by a directory. -/
structure IgnoreRule where
  pattern : Pattern
  ignores : Bool

/-- A list of rules, in the order of their lines. -/
structure IgnoreList where
  rules : List IgnoreRule

/-- Why an ignore list cannot be read. -/
inductive IgnoreError where
  | invalidLine (line : String)
  /-- The pattern that a line stands for, as it is written, and why it is refused. -/
  | refusedPattern (written : String) (e : Pattern.Error)
  deriving DecidableEq, Repr

/-- The message for a line that is no pattern. -/
def IgnoreError.message : IgnoreError → String
  | .invalidLine line => "Invalid git pattern: " ++ Text.quoted line
  | .refusedPattern written e => e.message written.toList

namespace IgnoreList

open SecretScan.Pattern

/-- One name of a path pattern, or any number of directories. -/
inductive Segment where
  | anything
  | glob (text : List Char)
  deriving DecidableEq

/-- The slash that marks a match by a directory. -/
def markedSlash : Node :=
  .group 1 (char '/')

/-- At least one character, none of them a line feed. -/
def something : Node :=
  .span .notLineFeed 1 none .greedy

/-- A node that may be left out. -/
def optional (nodes : List Node) : Node :=
  .repeated (.ofList nodes) 0 (some 1) .greedy

/-- The line without blanks at its end, unless the last one is escaped. -/
def trimmedLine (line : List Char) : List Char :=
  if ['\\', ' '].isSuffixOf line then line else Text.trimEndBlanks line

/-- Two wildcards for directories in a row are one. -/
def collapse : List Segment → List Segment
  | .anything :: .anything :: rest => collapse (.anything :: rest)
  | s :: rest => s :: collapse rest
  | [] => []

/-- The segments of a path pattern. One without a slash, its end apart, matches at any depth. -/
def segments (text : List Char) : List Segment :=
  let parts := Text.cutAt '/' text
  let read := fun (p : List Char) => if p = ['*', '*'] then Segment.anything else .glob p
  -- a slash at the start only anchors; one at the end alone does not
  let anchored := match parts with
    | [] :: rest => rest.map read
    | [p] => .anything :: [read p]
    | [p, []] => .anything :: [read p, .glob []]
    | _ => parts.map read
  -- a slash at the end asks for something below
  let closed := if anchored.getLast? = some (.glob []) then anchored.dropLast ++ [.anything]
    else anchored
  collapse closed

/-- The nodes of the segments after the first; `directory` tells whether the pattern ends in a
slash, and `slash` whether one is needed before the next name. -/
def laterNodes (directory : Bool) (slash : Bool) : List Segment → Except GlobError (List Node)
  | [] => .ok []
  | [.anything] => .ok [if directory then markedSlash else char '/']
  | .anything :: rest => do
    return optional [char '/', something] :: (← laterNodes directory true rest)
  | .glob text :: rest => do
    let name ← if text = ['*'] then pure [.span notSlash 1 none .greedy] else glob text
    let tail :=
      if rest.isEmpty then [Node.either markedSlash (.anchor .lastLineEnd)] else []
    let after ← laterNodes directory true rest
    return (if slash then [char '/'] else []) ++ name ++ tail ++ after

/-- The nodes of some segments. A few shapes need no look at the names at all. -/
def segmentsNodes (directory : Bool) : List Segment → Except GlobError (List Node)
  | [.anything] => .ok [if directory then markedSlash else .one .notLineFeed]
  | [.anything, .glob ['*']] => .ok [.one .notLineFeed]
  | [.anything, .glob ['*'], .anything] => .ok [if directory then markedSlash else char '/']
  | .anything :: rest => do
    let nodes ← laterNodes directory false rest
    return .anchor .textStart :: optional [something, char '/'] :: nodes
  | segments => do
    let nodes ← laterNodes directory false segments
    return .anchor .textStart :: nodes

/-- The segments after the first as they are written in a pattern. -/
def writtenLater (slash : Bool) : List Segment → List Char
  | [] => []
  | [.anything] => ['/']
  | .anything :: rest => "(?:/.+)?".toList ++ writtenLater true rest
  | .glob text :: rest =>
    (if slash then ['/'] else []) ++
      (if text = ['*'] then "[^/]+".toList else writtenGlob text) ++ writtenLater true rest

/-- Segments as they are written in a pattern, up to what follows the last one. -/
def written : List Segment → List Char
  | .anything :: rest => "^(?:.+/)?".toList ++ writtenLater false rest
  | segments => '^' :: writtenLater false segments

/-- Why the pattern that some segments stand for is refused, if it is. -/
def refusal? (segments : List Segment) : Option IgnoreError :=
  let source := String.ofList (written segments)
  match Pattern.parse source with
  | .ok _ => none
  | .error e => some (.refusedPattern source e)

/-- Reads a line. Comments, blank lines and lines with an open bracket say nothing. -/
def readLine (line : String) : Except IgnoreError (Option IgnoreRule) :=
  let text := trimmedLine line.toList
  if text.isEmpty || text.head? = some '#' || text = ['/'] then .ok none
  else
    let (ignores, text) := match text with
      | '!' :: rest => (false, rest)
      | _ => (true, text)
    -- the exclamation mark may have been all there was
    let directory := text.getLast?.all (· == '/')
    let parts := segments text
    if parts.isEmpty then .error (.invalidLine line)
    else
      match segmentsNodes directory parts with
      | .ok nodes =>
        match if nodes.any isReversed then refusal? parts else none with
        | some e => .error e
        | none => .ok (some ⟨⟨line, .ofList nodes, 1⟩, ignores⟩)
      | .error .openBracket => .ok none
      | .error .loneBackslash => .error (.invalidLine line)

/-- Reads the lines of a list. -/
def ofLines (lines : List String) : Except IgnoreError IgnoreList := do
  let read ← (lines.filter (· != "")).mapM readLine
  return ⟨read.filterMap id⟩

/-- Reads a list from a text. -/
def ofText (text : List Char) : Except IgnoreError IgnoreList :=
  ofLines ((Text.allLines text).map String.ofList)

/-- How a rule matches a path. -/
inductive Reach where
  /-- By a directory above it. -/
  | directory
  /-- The path itself. -/
  | path
  deriving DecidableEq

/-- How a rule matches a path, if it does. -/
def reach? (r : IgnoreRule) (path : Subject) : Option Reach :=
  (r.pattern.search path).map fun m => if (m.group? 1).isSome then .directory else .path

/-- The path as rules see it, without a slash, or else a dot and a slash, at its start. -/
def relative : List Char → List Char
  | '/' :: rest => rest
  | '.' :: '/' :: rest => rest
  | path => path

/-- What the rules that match say, the last line first. -/
def verdicts (l : IgnoreList) (path : Subject) : List (Reach × Bool) :=
  l.rules.reverse.filterMap fun r => (reach? r path).map (·, r.ignores)

/-- Is the path ignored? -/
def ignores (l : IgnoreList) (path : String) : Bool :=
  let found := l.verdicts (relative path.toList).toArray
  match found.find? (·.1 == .path) with
  | some (_, ignored) => ignored
  | none => (found.head?.map (·.2)).getD false

end IgnoreList

end SecretScan
