import SdkFeed.Xml.Strict.Tag
import SdkFeed.Xml.Strict.Text

/-!
Strict reading: from the bytes of a document to its tree with expanded names. References to
entities stay in the tree, and the texts of the entities are read only to judge them; every
element keeps the prefixes in scope, since values may be names too. Main definition: `read?`,
which has no result for a document that is not well formed or was complained of last.
-/

namespace SdkFeed.Xml.Strict

/-- An element whose end tag is still to come; its content so far is reversed. -/
structure Frame where
  /-- Its name as written. -/
  written : String
  name : Name
  attributes : List (Name × String)
  line : Nat
  scope : Scope
  content : List (Item Tree)

/-- A forest under construction: the open elements, innermost first, and the finished content at
the top, reversed. -/
structure Forest where
  frames : List Frame
  top : List (Item Tree)

/-- The number of elements that may be open when another one opens. -/
def openLimit : Nat :=
  255

namespace Forest

/-- Nothing read yet. -/
def empty : Forest :=
  ⟨[], []⟩

/-- Append a piece of finished content to the innermost open element. -/
def append (forest : Forest) (item : Item Tree) : Forest :=
  match forest.frames with
  | [] => { forest with top := item :: forest.top }
  | frame :: frames =>
    { forest with frames := { frame with content := item :: frame.content } :: frames }

/-- The element of a frame whose end has come. -/
def closed (frame : Frame) : Item Tree :=
  .child (.mk frame.name frame.attributes frame.line frame.content.reverse frame.scope)

/-- The scope at the end of a forest. -/
def scope (forest : Forest) : Scope :=
  (forest.frames.head?.map Frame.scope).getD Scope.outermost

/-- Take one token. `enter` reads the text of an entity. -/
def step (doctype : Doctype) (isOutermost : Bool) (enter : String → Reading Unit)
    (forest : Forest) : Token → Reading Forest
  | .text chars | .escaped chars => pure (forest.append (.text (String.ofList chars)))
  | .instruction target => do
    judgeTarget target
    return forest
  | .reference name => do
    judgeLength name
    match doctype.entities.lookup name.text with
    | some .unparsed => failure
    | some .external => pure ()
    | some (.internal _) => enter name.text
    | none => doctype.passUndeclared
    return forest.append .reference
  | .openTag tag => do
    guard (forest.frames.length ≤ openLimit)
    let (inner, name, attributes) ← doctype.readTag isOutermost forest.scope tag
    let frame := ⟨tag.name.text, name, attributes, tag.line, inner, []⟩
    return if tag.isEmpty then forest.append (closed frame)
      else { forest with frames := frame :: forest.frames }
  | .closeTag name =>
    match forest.frames with
    | [] => failure
    | frame :: frames => do
      guard (frame.written == name)
      return { forest with frames := frames }.append (closed frame)

/-- Take all tokens; every element opened must be closed. -/
def ofTokens (doctype : Doctype) (isOutermost : Bool) (enter : String → Reading Unit)
    (tokens : List Token) : Reading Forest := do
  let forest ← tokens.foldlM (step doctype isOutermost enter) empty
  guard forest.frames.isEmpty
  return forest

/-- Read the text of an entity as content, through at most `depth` levels of entities, if it has
not been read before. -/
def enterEntity (doctype : Doctype) : Nat → String → Reading Unit
  | 0, _ => failure
  | depth + 1, name => do
    if !(← get).entered.contains name then
      if let some (.internal text) := doctype.entities.lookup name then
        let some tokens := Token.ofEntity? .strict text | failure
        let _ ← ofTokens doctype false (enterEntity doctype depth) tokens
        modify fun memory => { memory with entered := name :: memory.entered }

end Forest

/-- Take what stands before the root element. `size` is that of the document. -/
def readOpening (standalone : Bool) (size : Nat) (outline : Outline) (doctype : Doctype) :
    Opening → Reading Doctype
  | .instruction target => do
    judgeTarget target
    return doctype
  | .declaration declaration => do
    let entities ← (Doctype.ofDeclaration standalone declaration.withoutAttributes).run' .fresh
    guard (entities.isModest size outline)
    Doctype.ofDeclaration standalone declaration

/-- Read a decoded text. -/
def readText (text : Text) : Reading Tree := do
  text.declaration.version.forM judgeVersion
  let standalone := text.declaration.standalone
  let some outline := Outline.read? (text.body .strict) | failure
  let size := (Extent.ofChars text.chars).size
  let doctype ← outline.opening.foldlM (readOpening standalone size outline) (.empty standalone)
  let enter := Forest.enterEntity doctype entityDepth
  let forest ← Forest.ofTokens doctype true enter outline.root
  outline.trailing.forM judgeTarget
  let [.child root] := forest.top | failure
  return root

/-- Read a document. -/
def read? (bytes : List UInt8) : Option Tree := do
  let (root, memory) ← (readText (← textOf? bytes)).run .fresh
  if memory.isSuspect then none else some root

end SdkFeed.Xml.Strict
