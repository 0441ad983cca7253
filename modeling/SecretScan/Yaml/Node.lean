import SecretScan.Yaml.Tag
import SecretScan.Yaml.Token

/-!
# Nodes

A document is made of scalars, sequences and mappings, each with its tag. Nodes are numbered as they
are met, and the items of a collection are given by their numbers: a node that is referred to by its
anchor has one number in all its places, and a collection can be an item of itself.
`Document.ofTokens?` reads the nodes off the tokens; `Document.merged` carries out the merge keys of
mappings.
-/

namespace SecretScan.Yaml

/-- The number of a node. -/
abbrev NodeId := Nat

/-- A part of a document. -/
inductive Node where
  | scalar (tag : Tag) (text : Text.Wide)
  | sequence (tag : Tag) (items : List NodeId)
  | mapping (tag : Tag) (entries : List (NodeId × NodeId))
  /-- A mapping with a merge key whose value is no mapping and no sequence of mappings. -/
  | unmergeable (tag : Tag)
  deriving DecidableEq

instance : Inhabited Node := ⟨.scalar .null (.wellFormed "")⟩

/-- The tag of a node. -/
def Node.tag : Node → Tag
  | .scalar tag _ | .sequence tag _ | .mapping tag _ | .unmergeable tag => tag

/-- Is the node a scalar? -/
def Node.isScalar : Node → Bool
  | .scalar _ _ => true
  | _ => false

/-- The nodes of a document by their numbers, and the number of the one at the top. -/
structure Document where
  nodes : Array Node
  root : NodeId
  deriving DecidableEq

/-! ## Reading -/

/-- How far the reading of nodes has come. -/
structure Composer where
  tokens : List Token
  /-- What the handles of tags stand for. -/
  handles : List (String × String) := []
  nodes : Array Node := #[]
  /-- The nodes that have an anchor. -/
  anchors : List (String × NodeId) := []

/-- A reader of nodes. -/
abbrev Compose := StateT Composer (Except Error)

namespace Compose

/-- The next token. A fault is met when it is looked at. -/
def next? : Compose (Option Token) := do
  match (← get).tokens with
  | .fault e :: _ => throw e
  | t :: _ => return some t
  | [] => return none

/-- Goes past the next token. -/
def advance : Compose Unit :=
  modify fun s => { s with tokens := s.tokens.tail }

/-- Does the next token end an entry of a block, or the block? -/
def endsBlockEntry (t : Option Token) : Bool :=
  match t with
  | some .key | some .value | some .blockEnd => true
  | _ => false

/-- Does the next token end an entry within brackets, or the brackets? -/
def endsFlowEntry (t : Option Token) : Bool :=
  match t with
  | some .flowEntry | some .flowSequenceEnd | some .flowMappingEnd => true
  | _ => false

/-- Adds a node. -/
def add (n : Node) : Compose NodeId := do
  let s ← get
  set { s with nodes := s.nodes.push n }
  return s.nodes.size

/-- Adds the absent node. -/
def absent : Compose NodeId :=
  add (.scalar .null (.wellFormed ""))

/-- What may stand before a node. -/
structure Properties where
  anchor : Option String := none
  tagName : Option String := none

/-- The full name of a tag. -/
def fullName (handle : Option String) (name : String) : Compose String := do
  match handle with
  | none => return name
  | some h =>
    match (← get).handles.lookup h with
    | some start => return start ++ name
    | none => throw .malformed

/-- Takes the anchor and the tag before a node, in any order. -/
def properties : Compose Properties := do
  match ← next? with
  | some (.anchor a) =>
    advance
    match ← next? with
    | some (.tag h n) =>
      advance
      return ⟨some a, some (← fullName h n)⟩
    | _ => return ⟨some a, none⟩
  | some (.tag h n) =>
    advance
    match ← next? with
    | some (.anchor a) =>
      advance
      return ⟨some a, some (← fullName h n)⟩
    | _ => return ⟨none, some (← fullName h n)⟩
  | _ => return {}

/-- The tag of a scalar. Only plain ones, and those marked as untagged, are taken by their look. -/
def scalarTag (p : Properties) (text : Text.Wide) (isPlain : Bool) : Tag :=
  let look := match text with
    | .wellFormed s => .ofPlain s
    | .illFormed _ => .str
  match p.tagName with
  | none => if isPlain then look else .str
  | some n => if n == "!" then look else .ofName n

/-- The tag of a sequence or a mapping. -/
def collectionTag (p : Properties) (default : Tag) : Tag :=
  match p.tagName with
  | none => default
  | some n => if n == "!" then default else .ofName n

/-- Adds a node under its anchor. An anchor is given once. -/
def register (p : Properties) (n : Node) : Compose NodeId := do
  let id ← add n
  match p.anchor with
  | none => return id
  | some a =>
    let s ← get
    if (s.anchors.lookup a).isSome then throw .malformed
    set { s with anchors := (a, id) :: s.anchors }
    return id

/-- Replaces a node. -/
def fill (id : NodeId) (n : Node) : Compose NodeId := do
  modify fun s => { s with nodes := s.nodes.setIfInBounds id n }
  return id

/-- Adds a sequence, which its own items can refer to. -/
def sequence (p : Properties) (items : Compose (List NodeId)) : Compose NodeId := do
  let tag := collectionTag p .seq
  let id ← register p (.sequence tag [])
  fill id (.sequence tag (← items))

/-- Adds a mapping, which its own entries can refer to. -/
def mapping (p : Properties) (entries : Compose (List (NodeId × NodeId))) : Compose NodeId := do
  let tag := collectionTag p .map
  let id ← register p (.mapping tag [])
  fill id (.mapping tag (← entries))

/-- Adds the node where there is nothing but properties. -/
def bare (p : Properties) : Compose NodeId :=
  if p.anchor.isSome || p.tagName.isSome then
    register p (.scalar (scalarTag p (.wellFormed "") p.tagName.isNone) (.wellFormed ""))
  else throw .malformed

/-- Takes a token that must be there. -/
def expect (isWanted : Token → Bool) : Compose Unit := do
  if (← next?).any isWanted then advance else throw .malformed

mutual

/-- Reads a node. Blocks may start only where `block` allows it; `indentless` allows a block
sequence without indentation of its own. -/
def node (block indentless : Bool) : (fuel : Nat) → Compose NodeId
  | 0 => throw .malformed
  | fuel + 1 => do
    if let some (.alias a) ← next? then
      advance
      match (← get).anchors.lookup a with
      | some id => return id
      | none => throw .malformed
    content block indentless (← properties) fuel

/-- Reads a node after its properties. -/
def content (block indentless : Bool) (p : Properties) : (fuel : Nat) → Compose NodeId
  | 0 => throw .malformed
  | fuel + 1 => do
    match ← next? with
    | some .blockEntry =>
      if indentless then sequence p (indentlessItems fuel) else bare p
    | some (.scalar text isPlain) =>
      advance
      register p (.scalar (scalarTag p text isPlain) text)
    | some .flowSequenceStart =>
      sequence p do
        advance
        flowItems true fuel
    | some .flowMappingStart =>
      mapping p do
        advance
        flowEntries true fuel
    | some .blockSequenceStart =>
      if block then
        sequence p do
          advance
          blockItems fuel
      else bare p
    | some .blockMappingStart =>
      if block then
        mapping p do
          advance
          blockEntries fuel
      else bare p
    | _ => bare p

/-- Reads the items of a block sequence. -/
def blockItems : (fuel : Nat) → Compose (List NodeId)
  | 0 => throw .malformed
  | fuel + 1 => do
    match ← next? with
    | some .blockEntry =>
      advance
      let item ← match ← next? with
        | some .blockEntry | some .blockEnd => absent
        | _ => node true false fuel
      return item :: (← blockItems fuel)
    | some .blockEnd => advance; return []
    | _ => throw .malformed

/-- Reads the items of a block sequence without indentation of its own. -/
def indentlessItems : (fuel : Nat) → Compose (List NodeId)
  | 0 => throw .malformed
  | fuel + 1 => do
    match ← next? with
    | some .blockEntry =>
      advance
      let item ← match ← next? with
        | some .blockEntry | some .key | some .value | some .blockEnd => absent
        | _ => node true false fuel
      return item :: (← indentlessItems fuel)
    | _ => return []

/-- Reads the entries of a block mapping. -/
def blockEntries : (fuel : Nat) → Compose (List (NodeId × NodeId))
  | 0 => throw .malformed
  | fuel + 1 => do
    match ← next? with
    | some .key =>
      advance
      let k ← if endsBlockEntry (← next?) then absent else node true true fuel
      let v ← blockValue fuel
      return (k, v) :: (← blockEntries fuel)
    | some .blockEnd => advance; return []
    | _ => throw .malformed

/-- Reads the value of an entry of a block mapping. -/
def blockValue : (fuel : Nat) → Compose NodeId
  | 0 => throw .malformed
  | fuel + 1 => do
    match ← next? with
    | some .value =>
      advance
      if endsBlockEntry (← next?) then absent else node true true fuel
    | _ => absent

/-- Reads the items of a sequence in brackets. A single entry of a mapping may be an item. -/
def flowItems (first : Bool) : (fuel : Nat) → Compose (List NodeId)
  | 0 => throw .malformed
  | fuel + 1 => do
    match ← next? with
    | some .flowSequenceEnd => advance; return []
    | _ =>
      if !first then expect fun | .flowEntry => true | _ => false
      match ← next? with
      | some .key =>
        advance
        let k ← match ← next? with
          | some .value | some .flowEntry | some .flowSequenceEnd => absent
          | _ => node false false fuel
        let v ← match ← next? with
          | some .value => do
            advance
            match ← next? with
            | some .flowEntry | some .flowSequenceEnd => absent
            | _ => node false false fuel
          | _ => absent
        let pair ← add (.mapping .map [(k, v)])
        return pair :: (← flowItems false fuel)
      | some .flowSequenceEnd => advance; return []
      | _ =>
        let item ← node false false fuel
        return item :: (← flowItems false fuel)

/-- Reads the entries of a mapping in braces. An entry may have no value. -/
def flowEntries (first : Bool) : (fuel : Nat) → Compose (List (NodeId × NodeId))
  | 0 => throw .malformed
  | fuel + 1 => do
    match ← next? with
    | some .flowMappingEnd => advance; return []
    | _ =>
      if !first then expect fun | .flowEntry => true | _ => false
      match ← next? with
      | some .key =>
        advance
        let k ← match ← next? with
          | some .value | some .flowEntry | some .flowMappingEnd => absent
          | _ => node false false fuel
        let v ← match ← next? with
          | some .value => do
            advance
            match ← next? with
            | some .flowEntry | some .flowMappingEnd => absent
            | _ => node false false fuel
          | _ => absent
        return (k, v) :: (← flowEntries false fuel)
      | some .flowMappingEnd => advance; return []
      | _ =>
        let k ← node false false fuel
        return (k, ← absent) :: (← flowEntries false fuel)

end

/-- What the handles of tags stand for if nothing else is said. -/
def defaultHandles : List (String × String) :=
  [("!", "!"), ("!!", commonTagStart)]

/-- Reads the directives before a document. -/
def directives (version : Bool) : (fuel : Nat) → Compose Unit
  | 0 => throw .malformed
  | fuel + 1 => do
    match ← next? with
    | some (.directive (.version major)) =>
      advance
      if version || major != 1 then throw .malformed
      directives true fuel
    | some (.directive (.tagHandle handle start)) =>
      advance
      let s ← get
      if (s.handles.lookup handle).isSome then throw .malformed
      set { s with handles := (handle, start) :: s.handles }
      directives version fuel
    | some (.directive .other) =>
      advance
      directives version fuel
    | _ => modify fun s => { s with handles := s.handles ++ defaultHandles }

/-- Skips marks of the end of a document. -/
def documentEnds : (fuel : Nat) → Compose Unit
  | 0 => throw .malformed
  | fuel + 1 => do
    if let some .documentEnd ← next? then
      advance
      documentEnds fuel

/-- Reads the only document of a text; none if there is no document. -/
def document (fuel : Nat) : Compose (Option NodeId) := do
  let root ← match ← next? with
    | none => pure none
    | some (.directive _) | some .documentStart => do
      directives false fuel
      expect fun | .documentStart => true | _ => false
      match ← next? with
      | none | some (.directive _) | some .documentStart | some .documentEnd => some <$> absent
      | _ => some <$> node true false fuel
    | _ => do
      modify fun s => { s with handles := defaultHandles }
      some <$> node true false fuel
  documentEnds fuel
  if (← next?).isSome then throw .malformed
  return root

end Compose

/-- Reads the nodes of a document off its tokens. -/
def Document.ofTokens? (tokens : List Token) : Except Error (Option Document) := do
  let (root, s) ← (Compose.document (4 * tokens.length + 8)).run { tokens }
  return root.map (⟨s.nodes, ·⟩)

/-! ## Merge keys -/

/-- Carrying out merge keys; nothing where one cannot be carried out. -/
abbrev Merge := OptionT (StateM (Array Node))

namespace Merge

/-- Is it an entry with a merge key? -/
def isMerge (nodes : Array Node) (entry : NodeId × NodeId) : Bool :=
  (nodes[entry.1]?).any (·.tag == .merge)

mutual

/-- Carries out the merge keys of a mapping. What they add comes before its own entries. -/
def flatten : (fuel : Nat) → NodeId → Merge Unit
  | 0, _ => return ()
  | fuel + 1, id => do
    let nodes ← get
    match nodes[id]? with
    | some (.mapping tag entries) =>
      match entries.find? (isMerge nodes) with
      | none => return ()
      | some (_, value) =>
        -- a mapping that is merged into itself adds nothing but its other entries
        modify (·.setIfInBounds id (.mapping tag (entries.eraseP (isMerge nodes))))
        let added ← addedBy fuel value
        flatten fuel id
        modify fun nodes =>
          match nodes[id]? with
          | some (.mapping tag own) => nodes.setIfInBounds id (.mapping tag (added ++ own))
          | _ => nodes
    | _ => return ()

/-- The entries that the value of a merge key adds. Of several mappings the last comes first. -/
def addedBy : (fuel : Nat) → NodeId → Merge (List (NodeId × NodeId))
  | 0, _ => failure
  | fuel + 1, value => do
    match (← get)[value]? with
    | some (.mapping _ _) => entriesOf fuel value
    | some (.sequence _ items) => return (← items.mapM (entriesOf fuel)).reverse.flatten
    | _ => failure

/-- The entries of a mapping whose merge keys have been carried out. -/
def entriesOf : (fuel : Nat) → NodeId → Merge (List (NodeId × NodeId))
  | 0, _ => failure
  | fuel + 1, id => do
    flatten fuel id
    match (← get)[id]? with
    | some (.mapping _ entries) => return entries
    | _ => failure

end

/-- Carries out the merge keys of a node, or notes that this cannot be done. -/
def apply (fuel : Nat) (nodes : Array Node) (id : NodeId) : Array Node :=
  match (flatten fuel id).run nodes with
  | (some (), nodes) => nodes
  | (none, nodes) => nodes.setIfInBounds id (.unmergeable (nodes.getD id default).tag)

end Merge

/-- How many entries the mappings among some nodes have. -/
def countEntries (nodes : Array Node) : Nat :=
  nodes.foldl (fun n node =>
    match node with
    | .mapping _ entries => n + entries.length
    | _ => n) 0

/-- The document with all merge keys carried out. -/
def Document.merged (d : Document) : Document :=
  let fuel := 3 * (countEntries d.nodes + d.nodes.size + 1)
  { d with nodes := (List.range d.nodes.size).foldl (Merge.apply fuel) d.nodes }

end SecretScan.Yaml
