import SecretScan.Pattern.Matching

/-!
# Globs

The pattern for one name on a path: `*` stands for any characters but slashes, `?` for one,
brackets for one of a set, and a backslash takes the character after it as it is. A glob is
translated to pattern nodes, so that matching is the matching of patterns.
-/

namespace SecretScan.IgnoreList

open SecretScan.Pattern

/-- Why a glob cannot be used. -/
inductive GlobError where
  /-- A backslash with nothing after it. -/
  | loneBackslash
  /-- An opening bracket without a closing one. -/
  | openBracket
  deriving DecidableEq, Repr

/-- Every character but the slash. -/
def notSlash : CharSet :=
  { items := [.range 47 47], negated := true }

/-- One given character. -/
def char (c : Char) : Node :=
  .one (.single c)

/-- The items of a set; a hyphen between two characters makes a range. -/
def setItems : List Char → List SetItem
  | [] => []
  | a :: '-' :: b :: rest => .range a.toNat b.toNat :: setItems rest
  | a :: rest => .range a.toNat a.toNat :: setItems rest

/-- Is this a set with a range whose ends are in the wrong order? -/
def isReversed : Node → Bool
  | .one set => set.items.any fun
    | .range first last => last < first
    | .property _ _ => false
  | _ => false

/-- Splits a set off the text after its opening bracket: is it negated, what does it list, and
what comes after it? A closing bracket at the start of a set is listed. -/
def splitSet (text : List Char) : Except GlobError (Bool × List Char × List Char) :=
  let (negated, body) := match text with
    | '!' :: rest => (true, rest)
    | '^' :: rest => (true, rest)
    | _ => (false, text)
  -- right after the opening, a closing bracket is a member like any other
  let (first, body) := match body with
    | ']' :: rest => ([']'], rest)
    | _ => ([], body)
  match body.dropWhile (· != ']') with
  | [] => .error .openBracket
  | _ :: rest => .ok (negated, first ++ body.takeWhile (· != ']'), rest)

/-- The nodes of a glob; `fuel` is at least its length. -/
def globFrom : (fuel : Nat) → List Char → Except GlobError (List Node)
  | _, [] => .ok []
  | 0, _ => .ok []
  | _ + 1, ['\\'] => .error .loneBackslash
  | fuel + 1, '\\' :: c :: rest => do return char c :: (← globFrom fuel rest)
  | fuel + 1, '*' :: rest => do return .span notSlash 0 none .greedy :: (← globFrom fuel rest)
  | fuel + 1, '?' :: rest => do return .one notSlash :: (← globFrom fuel rest)
  | fuel + 1, '[' :: rest => do
    let (negated, listed, rest) ← splitSet rest
    return .one { items := setItems listed, negated } :: (← globFrom fuel rest)
  | fuel + 1, c :: rest => do return char c :: (← globFrom fuel rest)

/-- The characters that a pattern takes as they are only after a backslash. -/
def escapedSigns : List Char :=
  "()[]\x7b\x7d?*+-|^$\\.&~# \t\n\r\x0b\x0c".toList

/-- A character as it is written in a pattern. -/
def writtenChar (c : Char) : List Char :=
  if escapedSigns.contains c then ['\\', c] else [c]

/-- The items of a set as they are written in a pattern. -/
def writtenSet (negated : Bool) (listed : List Char) : List Char :=
  let body := listed.flatMap fun c => if c == '\\' then ['\\', '\\'] else [c]
  '[' :: (if negated then ['^'] else []) ++ body ++ [']']

/-- A glob as it is written in a pattern; `fuel` is at least its length. -/
def writtenGlobFrom : (fuel : Nat) → List Char → List Char
  | _, [] => []
  | 0, _ => []
  | fuel + 1, '\\' :: c :: rest => writtenChar c ++ writtenGlobFrom fuel rest
  | fuel + 1, '*' :: rest => "[^/]*".toList ++ writtenGlobFrom fuel rest
  | fuel + 1, '?' :: rest => "[^/]".toList ++ writtenGlobFrom fuel rest
  | fuel + 1, '[' :: rest =>
    match splitSet rest with
    | .ok (negated, listed, rest) => writtenSet negated listed ++ writtenGlobFrom fuel rest
    | .error _ => []
  | fuel + 1, c :: rest => writtenChar c ++ writtenGlobFrom fuel rest

/-- A glob as it is written in a pattern. -/
def writtenGlob (text : List Char) : List Char :=
  writtenGlobFrom text.length text

/-- The nodes of a glob. -/
def glob (text : List Char) : Except GlobError (List Node) :=
  globFrom text.length text

end SecretScan.IgnoreList
