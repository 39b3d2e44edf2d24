import SdkFeed.Xml.Document
import SdkFeed.Xml.Namespace

/-!
Reading a document with its namespaces. With namespaces in force a colon splits names, so names
that are well formed by themselves may be wrong where they stand. The names of a document are
looked at in the order in which they stand in it, and the first that is wrong is blamed, with its
place. In the text of an entity every place is that of the reference to it.
-/

namespace SdkFeed.Xml

/-- A fault, and the number of characters before the place to blame for it. -/
structure Misnaming where
  fault : NameFault
  offset : Nat
deriving DecidableEq, Repr

/-- How a name stands to its colons. -/
inductive NameForm where
  | plain
  /-- One colon stands inside it. -/
  | qualified
  /-- Its colons make it a row of name characters and no more. -/
  | token
deriving DecidableEq, Repr

namespace Word

/-- The form of a name. -/
def form (word : Word) : NameForm :=
  match word.text.toList.span (· != ':') with
  | (_, []) => .plain
  | (before, _ :: behind) =>
    if before.isEmpty || behind.isEmpty || behind.contains ':' then .token else .qualified

/-- A name in a declaration that must hold no colon. -/
def checkPlain (word : Word) : Except Misnaming Unit :=
  if word.form == .plain then .ok () else .error ⟨.misplacedName, word.offset⟩

/-- A name in a declaration that may have a prefix. If it is none, a mark behind it is taken for
the error. -/
def checkQualified (word : Word) (mark : Option Char) : Except Misnaming Unit :=
  if word.form != .token then .ok ()
  else match mark with
    | none => .error ⟨.misplacedName, word.offset⟩
    | some _ => .error ⟨.strayColon, word.offset + word.text.length⟩

/-- A name outside declarations that must hold no colon. -/
def checkWhole (word : Word) : Except Misnaming Unit :=
  match word.text.toList.span (· != ':') with
  | (_, []) => .ok ()
  | (before, _) => .error ⟨.strayColon, word.offset + before.length⟩

/-- A name in a tag: it may hold one colon, between two names. -/
def checkSplit (word : Word) : Except Misnaming Unit :=
  match word.text.toList.span (· != ':') with
  | (_, []) => .ok ()
  | ([], _) => .error ⟨.strayColon, word.offset⟩
  | (before, _ :: behind) =>
    let start := word.offset + before.length + 1
    match behind with
    | [] => .error ⟨.strayColon, start⟩
    | c :: _ =>
      if c == ':' || !Alphabet.narrow.isNameStart c then .error ⟨.strayColon, start⟩
      else match behind.span (· != ':') with
        | (_, []) => .ok ()
        | (label, _) => .error ⟨.strayColon, start + label.length⟩

end Word

/-- The references in a literal. -/
def Literal.checkNames (value : Literal) : Except Misnaming Unit :=
  ((pieces? .narrow value).getD []).forM fun
    | .entity name => name.checkWhole
    | _ => .ok ()

namespace Markup

/-- The names in the definition of an entity. -/
def checkDefinition (isReading : Bool) : Definition → Except Misnaming Unit
  | .literal value => if isReading then value.checkNames else .ok ()
  | .external _ => .ok ()
  | .unparsed _ kind => kind.checkPlain

/-- The names in the definition of an attribute. -/
def checkAttribute (isReading : Bool) (definition : AttributeDefinition) :
    Except Misnaming Unit := do
  definition.name.checkQualified none
  if let .format names := definition.type then names.forM Word.checkPlain
  if isReading then definition.default.forM Literal.checkNames

/-- The names in a declaration. Literals are looked at only while declarations are in force. -/
def checkNames (isReading : Bool) : Markup → Except Misnaming Unit
  | .entity name definition | .parameter name definition => do
    name.checkPlain
    checkDefinition isReading definition
  | .attributes owner definitions => do
    owner.checkQualified none
    definitions.forM (checkAttribute isReading)
  | .element name model => do
    name.checkQualified none
    model.forM fun (name, mark) => name.checkQualified mark
  | .format name => name.checkPlain
  | .instruction target => target.checkWhole
  | .reference name => name.checkWhole

/-- The names in the declarations of a document type. -/
def checkAll (standalone : Bool) (isReading : Bool) : List Markup → Except Misnaming Unit
  | [] => .ok ()
  | markup :: rest => do
    markup.checkNames isReading
    let isReading := match markup with
      | .reference _ => isReading && standalone
      | _ => isReading
    checkAll standalone isReading rest

end Markup

/-- The names before the root element. -/
def Opening.checkNames (standalone : Bool) : Opening → Except Misnaming Unit
  | .instruction target => target.checkWhole
  | .declaration doctype => do
    doctype.name.checkQualified none
    Markup.checkAll standalone true doctype.markups

/-- The names in a start tag: first as they are written, one after the other, and then what they
stand for. The scope inside the element is the result. -/
def Tag.checkNames (doctype : Doctype) (scope : Scope) (tag : Tag) : Except Misnaming Scope := do
  tag.name.checkSplit
  tag.attributes.forM fun (name, value) => do
    name.checkSplit
    value.checkNames
  match scope.expand tag.name.text ((doctype.attributes? tag).getD []) with
  | .ok (inner, _) => return inner
  | .error fault => throw ⟨fault, tag.offset⟩

namespace Token

/-- The names in a token, with the scopes of the open elements, innermost first. `enter` looks at
the names in the text of an entity. -/
def checkNames (doctype : Doctype) (enter : String → Scope → Except Misnaming Unit)
    (scopes : List Scope) : Token → Except Misnaming (List Scope)
  | .text _ | .escaped _ => .ok scopes
  | .instruction target => do
    target.checkWhole
    return scopes
  | .reference name => do
    name.checkWhole
    let offset := name.offset - 1
    match doctype.entities.lookup name.text with
    | some (.internal _) =>
      match enter name.text (scopes.headD .outermost) with
      | .ok () => return scopes
      | .error misnaming => throw { misnaming with offset }
    | _ => throw ⟨.unknownEntity name.text, offset⟩
  | .openTag tag => do
    let inner ← tag.checkNames doctype (scopes.headD .outermost)
    return if tag.isEmpty then scopes else inner :: scopes
  | .closeTag _ => .ok scopes.tail

/-- The names in the text of an entity, through at most `depth` levels of entities. -/
def checkEntity (doctype : Doctype) : Nat → String → Scope → Except Misnaming Unit
  | 0, _, _ => .ok ()
  | depth + 1, name, scope => do
    if let some (.internal chars) := doctype.entities.lookup name then
      let tokens := (ofEntity? .plain chars).getD []
      let _ ← tokens.foldlM (checkNames doctype (checkEntity doctype depth)) [scope]

end Token

namespace Document

/-- The names of a document. -/
def checkNames (document : Document) : Except Misnaming Unit := do
  let doctype := document.doctype
  document.outline.opening.forM (Opening.checkNames doctype.standalone)
  let enter := Token.checkEntity doctype doctype.entities.length
  let _ ← document.outline.root.foldlM (Token.checkNames doctype enter) [.outermost]
  document.outline.trailing.forM Word.checkWhole

/-- The tree of a document with its names expanded. -/
def resolve (document : Document) : Except NameFault Tree :=
  document.root.resolve Scope.outermost

end Document

/-- Read a document with its namespaces. References that lead out of the document are an error:
there is nothing to put in their place. -/
def read (bytes : List UInt8) : Except ReadError Tree := do
  let text ← Text.ofBytes bytes
  let some document := Document.ofText? text | throw .malformed
  let blame (misnaming : Misnaming) : ReadError :=
    let (line, column) := text.position misnaming.offset
    .misnamed misnaming.fault line column
  document.checkNames.mapError blame
  document.resolve.mapError fun fault => blame ⟨fault, text.start⟩

end SdkFeed.Xml
