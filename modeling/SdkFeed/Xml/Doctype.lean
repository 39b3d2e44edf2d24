import SdkFeed.Text.Character
import SdkFeed.Xml.Markup

/-!
What a document type declaration contributes to reading: entities, attribute defaults, and
whether there are declarations elsewhere that are not read. The values of attributes are
normalized here too, since declared entities and attribute types decide how.
-/

namespace SdkFeed.Xml

/-- What a general entity was declared as. -/
inductive Entity where
  /-- Its replacement text. -/
  | internal (text : List Char)
  /-- It lies elsewhere, and nothing outside the document is ever read. -/
  | external
  /-- It is no markup at all. -/
  | unparsed
deriving DecidableEq, Repr

/-- The declaration of one attribute of one element type. -/
structure AttributeRule where
  element : String
  key : String
  /-- Declared as character data; other types have their white space collapsed. -/
  isText : Bool
  default : Option String
deriving Repr

/-- The declarations of a document that matter to its reader. -/
structure Doctype where
  entities : List (String × Entity)
  attributes : List AttributeRule
  /-- There are, or may be, declarations outside the document. -/
  isOpen : Bool
  standalone : Bool
  /-- Declarations are still in force: none may be missing before them. -/
  isReading : Bool
deriving Repr

namespace Doctype

/-- The declarations of a document without a document type. -/
def empty (standalone : Bool) : Doctype :=
  ⟨[], [], false, standalone, true⟩

/-- A reference to an undeclared entity is passed over only where its declaration may stand
outside the document. -/
def toleratesUndeclared (doctype : Doctype) : Bool :=
  doctype.isOpen && !doctype.standalone

/-- Declare an entity; the first declaration of a name is binding. -/
def addEntity (doctype : Doctype) (name : String) (entity : Entity) : Doctype :=
  if (doctype.entities.lookup name).isSome then doctype
  else { doctype with entities := doctype.entities ++ [(name, entity)] }

/-- The rule declared for an attribute of an element type. -/
def rule? (doctype : Doctype) (element key : String) : Option AttributeRule :=
  doctype.attributes.find? fun rule => rule.element == element && rule.key == key

/-- Declare an attribute; the first rule for an attribute of an element type is binding. -/
def addRule (doctype : Doctype) (rule : AttributeRule) : Doctype :=
  if (doctype.rule? rule.element rule.key).isSome then doctype
  else { doctype with attributes := doctype.attributes ++ [rule] }

/-- Replace the references in an attribute value, asking `nested` for the text of declared
entities. White space that stands literally becomes a space. -/
def expandWith (doctype : Doctype) (nested : List Char → Option (List Char)) (raw : List Char) :
    Option (List Char) := do
  guard (!raw.contains '<')
  let parts ← (← pieces? .narrow ⟨raw, 0⟩).mapM fun
    | .literal c => some [if isSpace c then ' ' else c]
    | .character c => some [c]
    | .entity name =>
      match predefined? name.text with
      | some c => some [c]
      | none =>
        match doctype.entities.lookup name.text with
        | some (.internal text) => nested text
        | some _ => none
        | none => if doctype.toleratesUndeclared then some [] else none
  return parts.flatten

/-- Replace references through at most `depth` levels of entities. -/
def expand (doctype : Doctype) : Nat → List Char → Option (List Char)
  | 0 => doctype.expandWith fun _ => none
  | depth + 1 => doctype.expandWith (doctype.expand depth)

/-- The value of an attribute from its literal. A chain of references longer than the list of
declarations is circular, so that length bounds the depth. -/
def value? (doctype : Doctype) (isText : Bool) (value : Literal) : Option String := do
  let chars ← doctype.expand doctype.entities.length value.chars
  return String.ofList (if isText then chars else Text.collapse (· == ' ') chars)

/-- The replacement text of an entity from the literal of its declaration: references by number
are replaced, references by name are kept. -/
def replacement? (value : Literal) : Option (List Char) := do
  guard (!value.chars.contains '%')
  let parts := (← pieces? .narrow value).map fun
    | .literal c => [if c == '\r' then '\n' else c]
    | .character c => [c]
    | .entity name => '&' :: name.text.toList ++ [';']
  return parts.flatten

/-- The entity that a definition declares. -/
def entity? : Definition → Option Entity
  | .literal value => do return .internal (← replacement? value)
  | .external _ => some .external
  | .unparsed .. => some .unparsed

/-- Take the definition of an attribute. -/
def define? (element : Word) (doctype : Doctype) (definition : AttributeDefinition) :
    Option Doctype := do
  let isText := definition.type == .text
  let default ← definition.default.mapM (doctype.value? isText)
  return doctype.addRule ⟨element.text, definition.name.text, isText, default⟩

/-- Take a declaration. A reference to a parameter entity opens the document type; unless the
document stands alone, the declarations behind it are not looked at. -/
def declare? (doctype : Doctype) (markup : Markup) : Option Doctype :=
  match markup with
  | .reference _ =>
    some { doctype with isOpen := true, isReading := doctype.isReading && doctype.standalone }
  | .entity name definition => do
    if !doctype.isReading then return doctype
    return doctype.addEntity name.text (← entity? definition)
  | .parameter _ definition => do
    if !doctype.isReading then return doctype
    let _ ← entity? definition
    return doctype
  | .attributes element definitions => do
    if !doctype.isReading then return doctype
    definitions.foldlM (define? element) doctype
  | .element .. | .format _ | .instruction _ => some doctype

/-- What a document type declaration contributes, if the literals in it are well formed. -/
def ofDeclaration? (standalone : Bool) (declaration : TypeDeclaration) : Option Doctype :=
  declaration.markups.foldlM declare?
    { empty standalone with isOpen := declaration.hasExternal }

end Doctype

end SdkFeed.Xml
