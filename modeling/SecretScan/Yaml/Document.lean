import SecretScan.Text.LetterCase
import SecretScan.Text.Occurrence
import SecretScan.Value
import SecretScan.Yaml.Node

/-!
# Documents

The value that a document stands for. Values are made level by level: those at the top first, then
the items and entries of the collections among them, and so on. Of several faults the one that is
met first in this order counts (`firstFault`). A collection that is met again within itself is a
value that is part of itself.
-/

namespace SecretScan.Yaml

/-- A fault and how deep it was met. -/
structure Fault where
  depth : Nat
  error : Error

/-- What making a value comes to. -/
abbrev Made (α : Type) := Except Fault α

/-- The fault that is met first: the least deep one, and of those the first. -/
def firstFault {α : Type} (found : Option Fault) : List (Made α) → Option Fault
  | [] => found
  | .ok _ :: rest => firstFault found rest
  | .error f :: rest =>
    match found with
    | none => firstFault (some f) rest
    | some g => firstFault (some (if f.depth < g.depth then f else g)) rest

/-- All of some values, or the first fault among them. -/
def allMade {α : Type} (parts : List (Made α)) : Made (List α) :=
  match firstFault none parts with
  | some f => .error f
  | none => .ok (parts.filterMap Except.toOption)

/-- Two values, or the first fault. -/
def bothMade (a b : Made Value) : Made (Value × Value) :=
  match allMade [a, b] with
  | .ok [x, y] => .ok (x, y)
  | .ok _ => .ok (.null, .null)
  | .error f => .error f

/-! ## Scalars -/

/-- The text of a scalar, or of the entry that stands for its mapping. -/
def scalarText (nodes : Array Node) : (fuel : Nat) → NodeId → Except Error Text.Wide
  | 0, _ => .error .malformed
  | fuel + 1, id =>
    match nodes[id]? with
    | some (.scalar _ text) => .ok text
    | some (.mapping _ entries) =>
      match entries.find? fun (k, _) => (nodes[k]?).any (·.tag == .value) with
      | some (_, v) => scalarText nodes fuel v
      | none => .error .malformed
    | _ => .error .malformed

/-- A text without underscores and without its sign; true means minus. -/
def unsignedText (text : List Char) : Except Error (Bool × List Char) :=
  match text.filter (· != '_') with
  | [] => .error .emptyNumber
  | '-' :: cs => .ok (true, cs)
  | '+' :: cs => .ok (false, cs)
  | cs => .ok (false, cs)

/-- The number of digits in base sixty. -/
def sexagesimalInt (parts : List Int) : Int :=
  parts.foldl (fun n d => 60 * n + d) 0

/-- What was read, or that it is no number. -/
def orInvalid {α : Type} (read : Option α) : Except Error α :=
  match read with
  | some a => .ok a
  | none => .error .invalidNumber

/-- A whole number: in base two, eight, ten, sixteen or sixty. -/
def intOfText (text : List Char) : Except Error Int := do
  let (negative, cs) ← unsignedText text
  let n ← match cs with
    | ['0'] => .ok 0
    | '0' :: 'b' :: ds => orInvalid (Decimal.readWholeInBase? 2 ds)
    | '0' :: 'x' :: ds => orInvalid (Decimal.readWholeInBase? 16 ds)
    | '0' :: _ => orInvalid (Decimal.readWholeInBase? 8 cs)
    | [] => .error .emptyNumber
    | _ =>
      if cs.contains ':' then do
        let parts ← (Text.cutAt ':' cs).mapM fun p => orInvalid (Decimal.readWhole? p)
        .ok (sexagesimalInt parts)
      else orInvalid (Decimal.readWhole? cs)
  return if negative then -n else n

/-- The number of parts in base sixty, the last part first; `base` is what the next part counts. -/
def sexagesimalFloat (sum : Float) (base : Int) : List Float → Except Error Float
  | [] => .ok sum
  | p :: rest =>
    match Decimal.floatOfInt? base with
    | some b => sexagesimalFloat (sum + p * b) (60 * base) rest
    | none => .error .numberTooLarge

/-- A number with a fractional part: in base ten or sixty, infinite, or none at all. -/
def floatOfText (text : List Char) : Except Error Float := do
  let (negative, cs) ← unsignedText (Text.lowered text)
  let x ←
    if cs == ".inf".toList then .ok (1.0 / 0.0)
    else if cs == ".nan".toList then return (0.0 / 0.0)
    else if cs.contains ':' then do
      let parts ← (Text.cutAt ':' cs).mapM fun p => orInvalid (Decimal.readNumber? p)
      sexagesimalFloat 0 1 parts.reverse
    else orInvalid (Decimal.readNumber? cs)
  return if negative then -x else x

/-- A truth value. -/
def boolOfText (text : String) : Except Error Bool :=
  let word := String.ofList (Text.lowered text.toList)
  match truthWords.lookup word with
  | some b => .ok b
  | none => .error (.unknownTruthValue word)

/-- A date, with or without a time of day. -/
def dateOfText (text : String) : Except Error Value :=
  match datePartsOf (withoutLastLineFeed text.toList) with
  | none => .error .notDate
  | some p =>
    if !p.moment.isValid then .error .noSuchDate
    else .ok (if p.hasTime then .moment p.moment else .date p.moment.date)

/-- The number of a digit in base sixty-four. -/
def base64Value? (c : Char) : Option Nat :=
  if c.isUpper then some (c.toNat - 65)
  else if c.isLower then some (c.toNat - 71)
  else if c.isDigit then some (c.toNat + 4)
  else if c == '+' then some 62
  else if c == '/' then some 63
  else none

/-- Reads bytes in base sixty-four: `quad` is the place within a group of four digits, `left` the
bits that are left over, `pads` the count of padding signs. Other characters are skipped. -/
def base64Bytes (quad left pads : Nat) : List Char → Option (List UInt8)
  | [] => if quad == 0 then some [] else none
  | '=' :: rest =>
    if 2 ≤ quad && 4 ≤ quad + pads + 1 then some []
    else base64Bytes quad left (if 2 ≤ quad then pads + 1 else pads) rest
  | c :: rest =>
    match base64Value? c with
    | none => base64Bytes quad left pads rest
    | some d =>
      let next := (quad + 1) % 4
      if quad == 0 then base64Bytes next d 0 rest
      else if quad == 1 then
        (base64Bytes next (d % 16) 0 rest).map (UInt8.ofNat (left * 4 + d / 16) :: ·)
      else if quad == 2 then
        (base64Bytes next (d % 4) 0 rest).map (UInt8.ofNat (left * 16 + d / 4) :: ·)
      else (base64Bytes next 0 0 rest).map (UInt8.ofNat (left * 64 + d) :: ·)

/-- Bytes in base sixty-four. -/
def bytesOfText (text : String) : Except Error (List UInt8) :=
  if text.toList.any (127 < ·.toNat) then .error .malformed
  else
    match base64Bytes 0 0 0 text.toList with
    | some bytes => .ok bytes
    | none => .error .malformed

/-- The value of a text under a tag; `isScalar` tells whether the text is that of a scalar. There is
none under the tag of a collection, or one that is unknown. -/
def valueOfText (tag : Tag) (isScalar : Bool) (text : Text.Wide) : Except Error Value :=
  let shown := text.shown
  match tag with
  | .null => .ok .null
  | .bool => .bool <$> boolOfText shown
  | .int => .int <$> intOfText shown.toList
  | .float => .float <$> floatOfText shown.toList
  | .binary => .bytes <$> bytesOfText shown
  | .timestamp => if isScalar then dateOfText shown else .error .dateOfMapping
  | .str => .ok (.text text)
  | .merge | .value | .other _ | .orderedMap | .pairs | .set | .seq | .map => .error .malformed

/-- Is it the tag of a collection? -/
def Tag.isCollection (tag : Tag) : Bool :=
  [Tag.orderedMap, .pairs, .set, .seq, .map].contains tag

/-! ## Collections -/

/-- Makes a mapping of its entries; of equal keys the last value counts. -/
def mappingOf (entries : List (Value × Value)) : List (Value × Value) :=
  entries.foldl (fun acc (k, v) => Value.putEntry k v acc) []

/-- What a node is that must be something else. -/
def misplaced (depth : Nat) : Made Value :=
  .error ⟨depth + 1, .malformed⟩

mutual

/-- The marks of the values that a value stands within. -/
def openMarks : Value → List Nat
  | .again mark => [mark]
  | .marked mark v => (openMarks v).filter (· != mark)
  | .list items | .set items => openMarksOfItems items
  | .pair first second => openMarks first ++ openMarks second
  | .mapping entries => openMarksOfEntries entries
  | _ => []

/-- The marks of the values that the items of a list stand within. -/
def openMarksOfItems : List Value → List Nat
  | [] => []
  | v :: rest => openMarks v ++ openMarksOfItems rest

/-- The marks of the values that the entries of a mapping stand within. -/
def openMarksOfEntries : List (Value × Value) → List Nat
  | [] => []
  | (k, v) :: rest => openMarks k ++ openMarks v ++ openMarksOfEntries rest

end

/-- Marks a value that it can be told by if it is met again. -/
def withMark (mark : Nat) (v : Value) : Value :=
  if (openMarks v).isEmpty then v else .marked mark v

/-- The mark of the value of a node. -/
def markOf (id : NodeId) : Nat := 2 * id

/-- The mark of the pair that is made of a mapping with one entry. -/
def pairMarkOf (id : NodeId) : Nat := 2 * id + 1

/-- A key of a mapping, if the value can be one. A fault that is met later does not count. -/
def usableKey (depth : Nat) (key : Made Value) : Made Value :=
  match key with
  | .ok x => if x.isKey then .ok x else .error ⟨depth, .malformed⟩
  | .error f => if f.depth == depth then .error f else .error ⟨depth, .malformed⟩

section Nodes

variable (d merged : Document) (depth : Nat) (below : NodeId → Made Value)

/-- The pair that is made of a mapping with one entry; `below` makes the values of its parts. -/
def pairOf (item : NodeId) : Made Value :=
  match d.nodes.getD item default with
  | .mapping _ [(k, v)] =>
    (fun (x, y) => withMark (pairMarkOf item) (.pair x y)) <$> bothMade (below k) (below v)
  | _ => misplaced depth

/-- An entry of a mapping. A key that stands for the whole mapping is a text here. -/
def entryOf (entry : NodeId × NodeId) : Made (Value × Value) :=
  let key := match merged.nodes.getD entry.1 default with
    | .scalar .value text => .ok (.text text)
    | _ => below entry.1
  bothMade (usableKey (depth + 1) key) (below entry.2)

/-- The value of a node by its tag. Pairs are made of the nodes as they are in the document, and
mappings of `merged` ones. -/
def valueOfNode (id : NodeId) : Made Value :=
  match merged.nodes.getD id default with
  | .sequence .orderedMap items | .sequence .pairs items =>
    .list <$> allMade (items.map (pairOf d depth below))
  | .sequence .seq items => .list <$> allMade (items.map below)
  | .mapping .map entries =>
    (.mapping ∘ mappingOf) <$> allMade (entries.map (entryOf merged depth below))
  | .mapping .set entries =>
    (fun es => .set ((mappingOf es).map (·.1))) <$>
      allMade (entries.map (entryOf merged depth below))
  | n =>
    if n.tag.isCollection then misplaced depth
    else
      (do valueOfText n.tag n.isScalar (← scalarText d.nodes (d.nodes.size + 1) id)).mapError
        (Fault.mk depth)

end Nodes

/-- The value of a node that was met at a depth, within the collections `outer`. -/
def valueOf (d merged : Document) :
    (fuel depth : Nat) → (outer : List NodeId) → NodeId → Made Value
  | 0, depth, _, _ => misplaced depth
  | fuel + 1, depth, outer, id =>
    if outer.contains id then .ok (.again (markOf id))
    else
      let below := valueOf d merged fuel (depth + 1) (id :: outer)
      withMark (markOf id) <$> valueOfNode d merged depth below id

/-- The value of a document. -/
def Document.value (d : Document) : Except Error Value :=
  (valueOf d d.merged (d.nodes.size + 1) 0 [] d.root).mapError (·.error)

/-- The value of the document that some bytes hold. -/
def read (bytes : List UInt8) : Except Error Value := do
  match ← Document.ofTokens? (Token.ofInput (.ofBytes bytes)) with
  | none => return .null
  | some d => d.value

end SecretScan.Yaml
