import SdkFeed.Yaml.Tag
import SdkFeed.Yaml.Token

/-!
The nodes of a document, as the grammar of YAML arranges its tokens. Nodes are numbered, and an
alias is the number of the node of its anchor; so a node can be in several places, and in itself.
Main definition: `Graph.ofTokens`.
-/

namespace SdkFeed.Yaml

/-- A node of a document. The nodes within it are given by their numbers. -/
inductive Node where
  | scalar (tag : Tag) (text : String)
  | sequence (tag : Tag) (members : List Nat)
  | mapping (tag : Tag) (pairs : List (Nat × Nat))
deriving Repr, Inhabited, DecidableEq

namespace Node

/-- The tag of a node. -/
def tag : Node → Tag
  | scalar tag _ | sequence tag _ | mapping tag _ => tag

/-- A node with another tag. -/
def withTag (tag : Tag) : Node → Node
  | scalar _ text => scalar tag text
  | sequence _ members => sequence tag members
  | mapping _ pairs => mapping tag pairs

/-- The pairs of a mapping. -/
def pairs : Node → List (Nat × Nat)
  | mapping _ pairs => pairs
  | _ => []

/-- A mapping with other pairs. -/
def withPairs (pairs : List (Nat × Nat)) : Node → Node
  | mapping tag _ => mapping tag pairs
  | node => node

/-- What holds for a whole document. -/
structure Frame where
  /-- What is wrong behind the last token. -/
  fault : Option Fault
  /-- What the handles of tags stand for. -/
  handles : List (String × String)

/-- How far the tokens of a document are read. -/
structure Progress where
  tokens : List Token
  /-- The nodes that anchors stand for. -/
  anchors : List (String × Nat)
  nodes : Array Node
  /-- How many collections are being read within each other. -/
  depth : Nat

/-- A step through the tokens of a document. -/
abbrev Step := StateT Progress (Except Fault)

/-- The greatest depth of collections within each other. -/
def depthLimit : Nat :=
  490

/-- The next token, or nothing at the end. -/
def peek (frame : Frame) : Step (Option Token) := do
  match (← get).tokens, frame.fault with
  | token :: _, _ => return some token
  | [], none => return none
  | [], some fault => throw fault

/-- Pass a token. -/
def pass : Step Unit :=
  modify fun progress => { progress with tokens := progress.tokens.tail }

/-- Number a node. -/
def add (node : Node) : Step Nat :=
  modifyGet fun progress =>
    (progress.nodes.size, { progress with nodes := progress.nodes.push node })

/-- A node that is left out. -/
def missing : Step Nat :=
  add (scalar .null "")

/-- The full name of a tag. -/
def tagText (frame : Frame) (name : TagName) : Step String :=
  match name.handle with
  | none => return name.suffix
  | some handle =>
    match frame.handles.lookup handle with
    | none => throw .malformed
    | some stem => return stem ++ name.suffix

/-- The anchor and the tag before a node, in either order. -/
def properties (frame : Frame) : Step (Option String × Option String) := do
  match ← peek frame with
  | some (.anchor name) =>
    pass
    match ← peek frame with
    | some (.tag tag) =>
      pass
      return (some name, some (← tagText frame tag))
    | _ => return (some name, none)
  | some (.tag tag) =>
    pass
    match ← peek frame with
    | some (.anchor name) =>
      pass
      return (some name, some (← tagText frame tag))
    | _ => return (none, some (← tagText frame tag))
  | _ => return (none, none)

/-- Whether a tag says nothing. -/
def saysNothing (tag : Option String) : Bool :=
  tag.isNone || tag == some "!"

/-- The tag of a scalar. Where none is written, plain scalars have one by their form. -/
def scalarTag (tag : Option String) (isPlain : Bool) (text : String) : Tag :=
  match tag with
  | none => if isPlain then .ofPlain text else .text
  | some name => if name == "!" then .ofPlain text else .ofName name

/-- The tag of a collection. -/
def collectionTag (tag : Option String) (default : Tag) : Tag :=
  match tag with
  | none => default
  | some name => if name == "!" then default else .ofName name

/-- Note which node an anchor stands for. -/
def note (anchor : Option String) (number : Nat) : Step Unit :=
  match anchor with
  | none => return
  | some name => modify fun progress =>
    { progress with anchors := (name, number) :: progress.anchors }

/-- An anchor may be set once. -/
def checkNew (anchor : Option String) : Step Unit := do
  match anchor with
  | none => return
  | some name => if ((← get).anchors.lookup name).isSome then throw .malformed

/-- The node that an alias stands for. -/
def ofAlias (name : String) : Step Nat := do
  match (← get).anchors.lookup name with
  | none => throw .malformed
  | some number => return number

/-- A node without nodes within it. -/
def single (anchor : Option String) (found : Node) : Step Nat := do
  let number ← add found
  note anchor number
  return number

/-- A node with nodes within it. It has its number before they have theirs. -/
def collect (anchor : Option String) (read : Step Node) : Step Nat := do
  if depthLimit ≤ (← get).depth then throw .endless
  let number ← add (scalar .null "")
  note anchor number
  modify fun progress => { progress with depth := progress.depth + 1 }
  let found ← read
  modify fun progress => { progress with
    depth := progress.depth - 1
    nodes := progress.nodes.setIfInBounds number found }
  return number

/-- Pass a token if it is the given one. -/
def accept (frame : Frame) (token : Token) : Step Bool := do
  if (← peek frame) == some token then
    pass
    return true
  else return false

/-- Whether the next token is one of some. -/
def isNext (frame : Frame) (tokens : List Token) : Step Bool := do
  return (← peek frame).any tokens.contains

mutual

/-- The node that stands next. Blocks are allowed where `inBlock` says so, and a sequence at the
margin of the mapping around it where `isFlush` says so. -/
def node (frame : Frame) : Nat → Bool → Bool → Step Nat
  | 0, _, _ => throw .malformed
  | fuel + 1, inBlock, isFlush => do
    match ← peek frame with
    | some (.alias name) =>
      pass
      ofAlias name
    | _ =>
      let (anchor, tag) ← properties frame
      checkNew anchor
      match ← peek frame, inBlock with
      | some .blockEntry, _ =>
        if isFlush then
          collect anchor do
            return sequence (collectionTag tag .sequence) (← flushEntries frame fuel)
        else if anchor.isSome || tag.isSome then single anchor (empty tag)
        else throw .malformed
      | some (.scalar isPlain text), _ =>
        pass
        single anchor (scalar (scalarTag tag isPlain text) text)
      | some .flowSequence, _ =>
        collect anchor do
          pass
          return sequence (collectionTag tag .sequence) (← flowEntries frame fuel true)
      | some .flowMapping, _ =>
        collect anchor do
          pass
          return mapping (collectionTag tag .mapping) (← flowPairs frame fuel true)
      | some .blockSequence, true =>
        collect anchor do
          pass
          return sequence (collectionTag tag .sequence) (← blockEntries frame fuel)
      | some .blockMapping, true =>
        collect anchor do
          pass
          return mapping (collectionTag tag .mapping) (← blockPairs frame fuel)
      | _, _ =>
        if anchor.isSome || tag.isSome then single anchor (empty tag) else throw .malformed
where
  /-- A node that has nothing but its properties. -/
  empty (tag : Option String) : Node :=
    scalar (if saysNothing tag then .null else scalarTag tag false "") ""

/-- The entries of a block sequence. -/
def blockEntries (frame : Frame) : Nat → Step (List Nat)
  | 0 => throw .malformed
  | fuel + 1 => do
    if ← accept frame .blockEntry then
      let found ←
        if ← isNext frame [.blockEntry, .blockEnd] then missing else node frame fuel true false
      return found :: (← blockEntries frame fuel)
    else if ← accept frame .blockEnd then return []
    else throw .malformed

/-- The entries of a block sequence at the margin of a mapping. Nothing marks its end. -/
def flushEntries (frame : Frame) : Nat → Step (List Nat)
  | 0 => throw .malformed
  | fuel + 1 => do
    if ← accept frame .blockEntry then
      let found ←
        if ← isNext frame [.blockEntry, .key, .value, .blockEnd] then missing
        else node frame fuel true false
      return found :: (← flushEntries frame fuel)
    else return []

/-- The pairs of a block mapping. -/
def blockPairs (frame : Frame) : Nat → Step (List (Nat × Nat))
  | 0 => throw .malformed
  | fuel + 1 => do
    if ← accept frame .key then
      let key ← blockPart frame fuel
      let value ← if ← accept frame .value then blockPart frame fuel else missing
      return (key, value) :: (← blockPairs frame fuel)
    else if ← accept frame .blockEnd then return []
    else throw .malformed

/-- The key or the value of a pair of a block mapping. -/
def blockPart (frame : Frame) : Nat → Step Nat
  | 0 => throw .malformed
  | fuel + 1 => do
    if ← isNext frame [.key, .value, .blockEnd] then missing else node frame fuel true true

/-- The entries of a flow sequence. An entry with a key is a mapping of one pair. -/
def flowEntries (frame : Frame) : Nat → Bool → Step (List Nat)
  | 0, _ => throw .malformed
  | fuel + 1, isFirst => do
    if ← accept frame .flowSequenceEnd then return []
    else if isFirst || (← accept frame .flowEntry) then
      if ← accept frame .key then
        let key ← flowPart frame fuel [.value, .flowEntry, .flowSequenceEnd]
        let value ←
          if ← accept frame .value then flowPart frame fuel [.flowEntry, .flowSequenceEnd]
          else missing
        let pair ← add (mapping .mapping [(key, value)])
        return pair :: (← flowEntries frame fuel false)
      else if ← accept frame .flowSequenceEnd then return []
      else
        let found ← node frame fuel false false
        return found :: (← flowEntries frame fuel false)
    else throw .malformed

/-- The pairs of a flow mapping. An entry without a key mark is a key. -/
def flowPairs (frame : Frame) : Nat → Bool → Step (List (Nat × Nat))
  | 0, _ => throw .malformed
  | fuel + 1, isFirst => do
    if ← accept frame .flowMappingEnd then return []
    else if isFirst || (← accept frame .flowEntry) then
      if ← accept frame .key then
        let key ← flowPart frame fuel [.value, .flowEntry, .flowMappingEnd]
        let value ←
          if ← accept frame .value then flowPart frame fuel [.flowEntry, .flowMappingEnd]
          else missing
        return (key, value) :: (← flowPairs frame fuel false)
      else if ← accept frame .flowMappingEnd then return []
      else
        let key ← node frame fuel false false
        let value ← missing
        return (key, value) :: (← flowPairs frame fuel false)
    else throw .malformed

/-- The key or the value of a pair in a flow collection; nothing if one of the given tokens stands
next. -/
def flowPart (frame : Frame) : Nat → List Token → Step Nat
  | 0, _ => throw .malformed
  | fuel + 1, stops => do
    if ← isNext frame stops then missing else node frame fuel false false

end

/-- The directives before a document: whether a version was named, and the handles. -/
def directives : Nat → Bool → List (String × String) → List Token →
    Except Fault (List (String × String) × List Token)
  | fuel + 1, hasVersion, handles, .directive found :: rest =>
    match found with
    | .version major _ =>
      if hasVersion || major != 1 then .error .malformed
      else directives fuel true handles rest
    | .handle handle stem =>
      if (handles.lookup handle).isSome then .error .malformed
      else directives fuel hasVersion ((handle, stem) :: handles) rest
    | .unknown => directives fuel hasVersion handles rest
  | _, _, handles, tokens => .ok (handles, tokens)

/-- The handles that every document has, unless it declares them itself. -/
def commonHandles : List (String × String) :=
  [("!", "!"), ("!!", Tag.stem)]

/-- The tokens behind the end of a document have to be marks of ends. -/
def checkEnd (frame : Frame) (tokens : List Token) : Except Fault Unit :=
  match tokens.dropWhile (· == .documentEnd), frame.fault with
  | [], none => .ok ()
  | [], some fault => .error fault
  | _ :: _, _ => .error .malformed

end Node

/-- The nodes of a document, and the number of its root. -/
structure Graph where
  nodes : Array Node
  root : Nat
deriving Repr

/-- The nodes of the one document of a text, or nothing if the text has no document. -/
def Graph.ofTokens (text : Tokens) : Except Fault (Option Graph) := do
  let fuel := 2 * text.tokens.length + 8
  match text.tokens, text.fault with
  | [], none => return none
  | [], some fault => throw fault
  | first :: _, _ =>
    let isExplicit := match first with
      | .directive _ | .documentStart => true
      | _ => false
    let (handles, tokens) ←
      if isExplicit then Node.directives text.tokens.length false [] text.tokens
      else pure ([], text.tokens)
    let frame : Node.Frame := ⟨text.fault, handles ++ Node.commonHandles⟩
    let content : Node.Step Nat := do
      if isExplicit then
        if !(← Node.accept frame .documentStart) then throw .malformed
        match ← Node.peek frame with
        | none | some (.directive _) | some .documentStart | some .documentEnd => Node.missing
        | _ => Node.node frame fuel true false
      else Node.node frame fuel true false
    let (root, progress) ← content.run ⟨tokens, [], #[], 0⟩
    Node.checkEnd frame progress.tokens
    return some ⟨progress.nodes, root⟩

end SdkFeed.Yaml
