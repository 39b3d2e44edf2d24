import SdkFeed.Yaml.Literal
import SdkFeed.Yaml.Node

/-!
The values of nodes. A collection has its value before its members have theirs, and collections are
filled in the order in which they were met, so what is wrong with a scalar is found before what is
wrong within a collection next to it. Mappings that are merged into others are put before their own
pairs. Main definition: `Document.ofText`.
-/

namespace SdkFeed.Yaml

/-- The value of a document, and what the collections within it hold. -/
structure Document where
  root : Value
  contents : Contents
deriving Repr

/-- A document of which only some nodes are worked out. -/
structure Draft where
  nodes : Array Node
  /-- The values of the nodes that have one. -/
  values : Array (Option Value)
  contents : Contents
  /-- The collections that are not filled yet, the last one met first. -/
  waiting : List Nat

/-- A step in working out a document. -/
abbrev Making := StateT Draft (Except Fault)

namespace Draft

/-- Nothing is worked out. -/
def ofNodes (nodes : Array Node) : Draft :=
  ⟨nodes, Array.replicate nodes.size none, Array.replicate nodes.size none, []⟩

/-- The node of a number. -/
def node (draft : Draft) (number : Nat) : Node :=
  draft.nodes[number]?.getD default

/-- Change a node. -/
def change (number : Nat) (f : Node → Node) (draft : Draft) : Draft :=
  { draft with nodes := draft.nodes.setIfInBounds number (f (draft.node number)) }

/-- The text that a node stands for where a scalar is asked for: a mapping stands for the value of
its value key. Following more nodes than there are never comes to an end. -/
def scalarText (draft : Draft) : Nat → Nat → Except Fault String
  | 0, _ => .error .endless
  | fuel + 1, number =>
    match draft.node number with
    | .scalar _ content => .ok content
    | .sequence _ _ => .error .malformed
    | .mapping _ pairs =>
      match pairs.find? fun (key, _) => (draft.node key).tag == .value with
      | some (_, value) => draft.scalarText fuel value
      | none => .error .malformed

/-- The value of a node that is no collection. -/
def scalar (draft : Draft) (number : Nat) (tag : Tag) : Except Fault Value := do
  let content ← draft.scalarText (draft.nodes.size + 1) number
  match tag, draft.node number with
  | .stamp, .mapping _ _ => throw .mappingAsStamp
  | tag, _ => Value.ofScalar number tag content

end Draft

namespace Document

/-- The value of a node. It is worked out once. -/
def valueOf (number : Nat) : Making Value := do
  let draft ← get
  match draft.values[number]?.join with
  | some value => return value
  | none =>
    let (value, waiting) ← match (draft.node number).tag with
      | .unknown | .merge | .value => throw .malformed
      | .sequence | .mapping | .set | .pairs =>
        pure (Value.collection number, number :: draft.waiting)
      | tag => do pure (← draft.scalar number tag, draft.waiting)
    set { draft with values := draft.values.setIfInBounds number (some value), waiting }
    return value

/-- Take the keys out of a mapping that merge others into it, and put the pairs of these before its
own; the sign of the value key is a text like any other then. Looking for such keys starts at a
position; `merged` holds what was found before it. Of several mappings that a key merges, the
earlier ones come last and win. Each call takes a key out or ends. -/
def merge : Nat → Nat → List (Nat × Nat) → Nat → Making Unit
  | 0, _, _, _ => throw .endless
  | fuel + 1, number, merged, start => do
    let draft ← get
    let pairs := (draft.node number).pairs
    match (pairs.drop start).findIdx? fun (key, _) => (draft.node key).tag == .merge with
    | none =>
      for (key, _) in pairs do
        if (draft.node key).tag == .value then modify (Draft.change key (Node.withTag .text))
      modify (Draft.change number (Node.withPairs (merged ++ pairs)))
    | some offset =>
      modify (Draft.change number (Node.withPairs (pairs.eraseIdx (start + offset))))
      let pairsOf (other : Nat) : Making (List (Nat × Nat)) := do
        match draft.node other with
        | .mapping _ _ =>
          merge fuel other [] 0
          return ((← get).node other).pairs
        | _ => throw .malformed
      let found ← match pairs[start + offset]? with
        | none => pure []
        | some (_, value) =>
          match draft.node value with
          | .sequence _ members => do pure (← members.mapM pairsOf).reverse.flatten
          | _ => pairsOf value
      merge fuel number (merged ++ found) (start + offset)

/-- The number of keys that merge mappings, at most. -/
def keyCount (nodes : Array Node) : Nat :=
  nodes.foldl (fun count node => count + node.pairs.length) 0

/-- The keys and values of a mapping. Every key has to be one. -/
def pairsOf (number : Nat) : Making (List (Value × Value)) := do
  merge (keyCount (← get).nodes + 1) number [] 0
  ((← get).node number).pairs.foldlM (fun done (key, value) => do
    let key ← valueOf key
    if !key.isKey then throw .malformed
    return Value.put done key (← valueOf value)) []

/-- The key and the value of a mapping that has one pair. -/
def pairOf (number : Nat) : Making (Value × Value) := do
  match (← get).node number with
  | .mapping _ [(key, value)] =>
    let key ← valueOf key
    return (key, ← valueOf value)
  | _ => throw .malformed

/-- Fill a collection. Its node has to be of the kind that its tag tells. -/
def fill (number : Nat) : Making Unit := do
  let found ← match (← get).node number with
    | .sequence .sequence members => do pure (.list (← members.mapM valueOf))
    | .sequence .pairs members => do pure (.pairs (← members.mapM pairOf))
    | .mapping .mapping _ => do pure (.mapping (← pairsOf number))
    | .mapping .set _ => do pure (.set ((← pairsOf number).map (·.1)))
    | _ => throw .malformed
  modify fun draft =>
    { draft with contents := draft.contents.setIfInBounds number (some found) }

/-- Fill all collections that wait, and those that are met then. Each round fills one at least. -/
def fillAll : Nat → Making Unit
  | 0 => throw .endless
  | fuel + 1 => do
    let waiting := (← get).waiting
    if waiting.isEmpty then return
    modify fun draft => { draft with waiting := [] }
    waiting.reverse.forM fill
    fillAll fuel

/-- The document that the nodes of a text make. -/
def ofGraph (graph : Graph) : Except Fault Document := do
  let work : Making Value := do
    let root ← valueOf graph.root
    fillAll (graph.nodes.size + 2)
    return root
  let (root, draft) ← work.run (Draft.ofNodes graph.nodes)
  return ⟨root, draft.contents⟩

/-- A text with a line feed for every line break of a file. -/
def joinBreaks : List Char → List Char
  | '\r' :: '\n' :: rest => '\n' :: joinBreaks rest
  | '\r' :: rest => '\n' :: joinBreaks rest
  | c :: rest => c :: joinBreaks rest
  | [] => []

/-- The document of a text that holds at most one. A text without any has no value. -/
def ofText (content : String) : Except Fault Document := do
  match ← Graph.ofTokens (.ofText (String.ofList (joinBreaks content.toList))) with
  | none => return ⟨.null, #[]⟩
  | some graph => ofGraph graph

end Document

end SdkFeed.Yaml
