import SecretScan.Pattern.CharSet

/-!
# The syntax of patterns

A pattern is a tree of `Node`s. Repetition of a single character set has a node of its own
(`span`), as it is by far the most frequent kind and needs no search within the repeated part.
`Node.width` gives the least and the greatest length of what a node can match.
-/

namespace SecretScan.Pattern

/-- In which order a repetition tries its counts. -/
inductive Order where
  /-- The most first. -/
  | greedy
  /-- The fewest first. -/
  | lazy
  deriving DecidableEq, Repr

/-- Conditions on a position. -/
inductive Anchor where
  | textStart
  | lineStart
  | textEnd
  /-- The end, or before a line feed at the end. -/
  | lastLineEnd
  | lineEnd
  /-- Between a word character and another; `boundary = false` asks for the opposite. -/
  | word (boundary : Bool) (ascii : Bool)
  deriving DecidableEq, Repr

/-- Where a look-around looks. -/
inductive Side where
  | ahead
  /-- At what ends here, with this length. -/
  | behind (width : Nat)
  deriving DecidableEq, Repr

/-- The syntax tree of a pattern. -/
inductive Node where
  | empty
  /-- One character of a set. -/
  | one (set : CharSet)
  /-- Characters of a set, at least `min` and at most `max` of them. -/
  | span (set : CharSet) (min : Nat) (max : Option Nat) (order : Order)
  | seq (first second : Node)
  /-- The first that leads to a match. -/
  | either (first second : Node)
  /-- A part that is remembered under a number. -/
  | group (index : Nat) (body : Node)
  | repeated (body : Node) (min : Nat) (max : Option Nat) (order : Order)
  | anchor (at' : Anchor)
  /-- A part that must (or must not) match here and takes no room. -/
  | look (side : Side) (negated : Bool) (body : Node)
  /-- The text of a group once more. -/
  | again (index : Nat) (comparison : Comparison)
  /-- One part if a group took part in the match, another if not. -/
  | ifGroup (index : Nat) (yes no : Node)
  /-- A part whose first match is final. -/
  | atomic (body : Node)
  deriving DecidableEq, Repr

namespace Node

/-- One node after the other. -/
def ofList : List Node → Node
  | [] => .empty
  | [n] => n
  | n :: ns => .seq n (ofList ns)

/-- The first of several that leads to a match. -/
def firstOf : List Node → Node
  | [] => .empty
  | [n] => n
  | n :: ns => .either n (firstOf ns)

/-- The characters of a text, one after the other. -/
def literal (text : String) : Node :=
  ofList (text.toList.map fun c => .one (.single c))

end Node

/-- The least and the greatest length of what a node matches; none where there is no greatest. -/
structure Width where
  least : Nat
  greatest : Option Nat
  deriving DecidableEq, Repr

namespace Width

def zero : Width := ⟨0, some 0⟩

def one : Width := ⟨1, some 1⟩

def add (a b : Width) : Width :=
  ⟨a.least + b.least, do return (← a.greatest) + (← b.greatest)⟩

/-- Either of two. -/
def join (a b : Width) : Width :=
  ⟨min a.least b.least, do return max (← a.greatest) (← b.greatest)⟩

/-- Repeated from `min` to `max` times. -/
def times (a : Width) (min : Nat) (max : Option Nat) : Width :=
  ⟨a.least * min,
    match a.greatest, max with
    | some 0, _ => some 0
    | some g, some m => some (g * m)
    | _, some 0 => some 0
    | _, _ => none⟩

/-- The length, where there is only one. -/
def fixed? (a : Width) : Option Nat :=
  if a.greatest = some a.least then some a.least else none

end Width

/-- The width of a node, given those of the groups it refers to. -/
def Node.width (groups : List (Nat × Width)) : Node → Width
  | .empty => .zero
  | .one _ => .one
  | .span _ min max _ => Width.one.times min max
  | .seq a b => (a.width groups).add (b.width groups)
  | .either a b => (a.width groups).join (b.width groups)
  | .group _ body => body.width groups
  | .repeated body min max _ => (body.width groups).times min max
  | .anchor _ => .zero
  | .look _ _ _ => .zero
  | .again index _ => (groups.lookup index).getD .zero
  | .ifGroup _ yes no => (yes.width groups).join (no.width groups)
  | .atomic body => body.width groups

end SecretScan.Pattern
