import SdkFeed.Xml.Doctype
import SdkFeed.Xml.Expansion
import SdkFeed.Xml.Strict.Reading

/-!
What a document type declaration contributes for the strict reader. Unlike the plain reader it
follows parameter entities, keeps the types of attributes, and judges what is declared twice or
has a default of another type. The values of attributes are made here too.
-/

namespace SdkFeed.Xml.Strict

/-- The first declaration of an attribute of an element type. -/
structure Rule where
  element : String
  key : String
  type : AttributeType
  default : Option String
deriving Repr

/-- The declarations that the strict reader has met. -/
structure Doctype where
  entities : List (String × Entity)
  parameters : List (String × Entity)
  rules : List Rule
  /-- The element types with a content model. -/
  elements : List String
  formats : List String
  /-- There are, or may be, declarations outside the document. -/
  isOpen : Bool
  standalone : Bool
deriving Repr

/-- The greatest number of entities that may be inside each other. -/
def entityDepth : Nat :=
  40

namespace Doctype

/-- The declarations of a document without a document type. -/
def empty (standalone : Bool) : Doctype :=
  ⟨[], [], [], [], [], false, standalone⟩

/-- The rule declared for an attribute of an element type. -/
def rule? (doctype : Doctype) (element key : String) : Option Rule :=
  doctype.rules.find? fun rule => rule.element == element && rule.key == key

/-- Pass over a reference to an entity that is not declared. -/
def passUndeclared (doctype : Doctype) : Reading Unit := do
  guard (doctype.isOpen && !doctype.standalone)
  remark

/-- The characters that a piece of an attribute value stands for. `nested` gives those of the text
of an entity. -/
def pieceChars (doctype : Doctype) (nested : List Char → Reading (List Char)) :
    Piece → Reading (List Char)
  | .literal c => pure [if isSpace c then ' ' else c]
  | .character c => pure [c]
  | .entity name => do
    judgeLength name
    match predefined? name.text, doctype.entities.lookup name.text with
    | some c, _ => return [c]
    | none, some (.internal text) => nested text
    | none, some _ => failure
    | none, none =>
      doctype.passUndeclared
      return []

/-- Replace the references in an attribute value. -/
def expandWith (doctype : Doctype) (nested : List Char → Reading (List Char)) (raw : List Char) :
    Reading (List Char) := do
  guard (!raw.contains '<')
  let some pieces := pieces? .broad ⟨raw, 0⟩ | failure
  return (← pieces.mapM (doctype.pieceChars nested)).flatten

/-- Replace references through at most `depth` levels of entities. -/
def expand (doctype : Doctype) : Nat → List Char → Reading (List Char)
  | 0 => doctype.expandWith fun _ => failure
  | depth + 1 => doctype.expandWith (doctype.expand depth)

/-- The value of an attribute of a type, from what its references leave. -/
def normalized (type : AttributeType) (chars : List Char) : String :=
  String.ofList (if type == .text then chars else Text.collapse (· == ' ') chars)

/-- Judge the length of a literal. -/
def judgeLiteral (literal : Literal) : Reading Unit :=
  guard (Dialect.strict.admits (Text.utf8Count literal.chars))

/-- The value of an attribute from its literal. -/
def value (doctype : Doctype) (type : AttributeType) (literal : Literal) : Reading String := do
  judgeLiteral literal
  return normalized type (← doctype.expand entityDepth literal.chars)

/-- The characters of a default, in which references to declared entities stay what they are. An
ampersand is written so that it begins no reference. -/
def keptChars (doctype : Doctype) : Piece → List Char
  | .literal c => [if isSpace c then ' ' else c]
  | .character c => if c == '&' then "&#38;".toList else [c]
  | .entity name =>
    match predefined? name.text with
    | some c => if c == '&' then "&#38;".toList else [c]
    | none =>
      if (doctype.entities.lookup name.text).isSome then '&' :: name.text.toList ++ [';'] else []

/-- The default of an attribute from its literal. -/
def default (doctype : Doctype) (type : AttributeType) (literal : Literal) : Reading String := do
  let _ ← doctype.value type literal
  let pieces := (pieces? .broad literal).getD []
  return normalized type (pieces.map doctype.keptChars).flatten

/-- Whether a text consists of one or more words of a kind, with single blanks between them. -/
def areWords (isWord : List Char → Bool) (pending : List Char) : List Char → Bool
  | [] => isWord pending.reverse
  | ' ' :: rest => isWord pending.reverse && areWords isWord [] rest
  | c :: rest => areWords isWord (c :: pending) rest

/-- Whether a text is a row of name characters. -/
def isToken (chars : List Char) : Bool :=
  !chars.isEmpty && chars.all Alphabet.broad.isNameChar

/-- Whether a value is of a type, as far as the form of the value tells. -/
def fits (type : AttributeType) (value : List Char) : Bool :=
  match type with
  | .text => true
  | .id | .idReference | .entity | .format _ => Alphabet.broad.isName value
  | .idReferences | .entities => areWords Alphabet.broad.isName [] value
  | .token => isToken value
  | .tokens | .choice _ => areWords isToken [] value

/-- The words that a type lists. -/
def choices : AttributeType → List Word
  | .format words | .choice words => words
  | _ => []

/-- Take the definition of an attribute. -/
def define (element : Word) (doctype : Doctype) (definition : AttributeDefinition) :
    Reading Doctype := do
  let key := definition.name.text
  let type := definition.type
  complainIf (!((choices type).map Word.text).Nodup)
  let default ← definition.default.mapM (doctype.default type)
  complainIf (key == "xml:id" && type != .id)
  complainIf (!(default.map fun value => fits type value.toList).getD true)
  if (doctype.rule? element.text key).isSome then do
    remark
    return doctype
  complainIf (type == .id &&
    doctype.rules.any fun rule => rule.element == element.text && rule.type == .id)
  return { doctype with rules := doctype.rules ++ [⟨element.text, key, type, default⟩] }

/-- The text of an entity from the literal of its declaration. A declared parameter entity must not
be referred to in it; a reference to another one ends the text. -/
def replacement (doctype : Doctype) (literal : Literal) : Reading (Doctype × List Char) := do
  judgeLiteral literal
  let (before, behind) := literal.chars.span (· != '%')
  let some pieces := pieces? .broad ⟨before, literal.offset⟩ | failure
  let text := (pieces.map fun
    | .literal c => [if c == '\r' then '\n' else c]
    | .character c => [c]
    | .entity name => '&' :: name.text.toList ++ [';']).flatten
  match behind with
  | [] => return (doctype, text)
  | _ :: behind => do
    let some (name, next) := (Cursor.start .strict behind).name? | failure
    guard (next.rest.head? == some ';' && (doctype.parameters.lookup name.text).isNone)
    judgeLength name
    let doctype := { doctype with isOpen := true }
    doctype.passUndeclared
    return (doctype, text)

/-- The entity that a definition declares. Its address must name a resource as a whole. -/
def entity (doctype : Doctype) : Definition → Reading (Doctype × Entity)
  | .literal value => do
    let (doctype, text) ← doctype.replacement value
    return (doctype, .internal text)
  | .external system => do
    guard (!system.contains '#')
    return (doctype, .external)
  | .unparsed system _ => do
    guard (!system.contains '#')
    return (doctype, .unparsed)

/-- Whether an entity may be declared with the name of a predefined one: its text must be the
character, if that is no markup, or a reference to it by number. -/
def restates (c : Char) : Entity → Bool
  | .internal ('&' :: '#' :: 'x' :: digits) =>
    digits.map Char.toLower == Nat.toDigits 16 c.toNat ++ [';']
  | .internal ('&' :: '#' :: digits) => digits == Nat.toDigits 10 c.toNat ++ [';']
  | .internal text => text == [c] && c != '<' && c != '&'
  | _ => false

/-- Declare an entity; the first declaration of a name is binding. -/
def addEntity (doctype : Doctype) (name : String) (entity : Entity) : Reading Doctype :=
  match predefined? name with
  | some c => do
    if !restates c entity then remark
    return doctype
  | none =>
    if (doctype.entities.lookup name).isSome then return doctype
    else return { doctype with entities := (name, entity) :: doctype.entities }

/-- Declare a parameter entity; the first declaration of a name is binding. -/
def addParameter (doctype : Doctype) (name : String) (entity : Entity) : Doctype :=
  if (doctype.parameters.lookup name).isSome then doctype
  else { doctype with parameters := (name, entity) :: doctype.parameters }

/-- The names in a declaration that are taken as a whole. -/
def names : Markup → List Word
  | .entity name (.unparsed _ kind) | .parameter name (.unparsed _ kind) => [name, kind]
  | .entity name _ | .parameter name _ | .format name | .instruction name | .reference name =>
    [name]
  | .attributes element definitions =>
    element :: definitions.flatMap fun definition => definition.name :: choices definition.type
  | .element name model => name :: model.map Prod.fst

/-- Take one declaration. `enter` takes those in the text of a parameter entity. -/
def declare (enter : Doctype → List Char → Reading Doctype) (doctype : Doctype)
    (markup : Markup) : Reading Doctype := do
  (names markup).forM judgeLength
  match markup with
  | .entity name definition => do
    judgePlain name
    let (doctype, entity) ← doctype.entity definition
    doctype.addEntity name.text entity
  | .parameter name definition => do
    judgePlain name
    let (doctype, entity) ← doctype.entity definition
    return doctype.addParameter name.text entity
  | .attributes element definitions => definitions.foldlM (define element) doctype
  | .element name _ => do
    complainIf (doctype.elements.contains name.text)
    return { doctype with elements := name.text :: doctype.elements }
  | .format name => do
    judgePlain name
    complainIf (doctype.formats.contains name.text)
    return { doctype with formats := name.text :: doctype.formats }
  | .instruction target => do
    judgeTarget target
    return doctype
  | .reference name => do
    let doctype := { doctype with isOpen := true }
    match doctype.parameters.lookup name.text with
    | none => do
      doctype.passUndeclared
      return doctype
    | some (.internal text) => enter doctype text
    | some _ => return doctype

/-- Take declarations, through at most `depth` levels of parameter entities. -/
def declareAll : Nat → Doctype → List Markup → Reading Doctype
  | 0, doctype, markups => markups.foldlM (declare fun _ _ => failure) doctype
  | depth + 1, doctype, markups =>
    markups.foldlM (declare fun doctype text => do
      let some markups := Markup.whole? (Cursor.start .strict text) | failure
      declareAll depth doctype markups) doctype

/-- The texts of the internal entities. -/
def texts (doctype : Doctype) : List (String × List Char) :=
  doctype.entities.filterMap fun
    | (name, .internal text) => some (name, text)
    | _ => none

/-- How much the references of a document of the given size may add to it: up to a limit, or up to
five times its own size. -/
def allowance (size : Nat) : Nat :=
  max 1000000 (5 * size) + 1

/-- What each reference to an entity costs beside its text. -/
def referenceCharge : Nat :=
  20

/-- Whether the references of a document do not add too much to it. -/
def isModest (doctype : Doctype) (size : Nat) (outline : Outline) : Bool :=
  doctype.texts.isEmpty ||
    Extent.isWithin doctype.texts referenceCharge (allowance size) outline.references

/-- Take a document type declaration, with no declarations before it. -/
def ofDeclaration (standalone : Bool) (declaration : TypeDeclaration) : Reading Doctype := do
  judgeLength declaration.name
  declareAll entityDepth { empty standalone with isOpen := declaration.hasExternal }
    declaration.markups

end Doctype

end SdkFeed.Xml.Strict
