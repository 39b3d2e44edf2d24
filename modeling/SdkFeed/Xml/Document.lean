import SdkFeed.Xml.Declaration
import SdkFeed.Xml.Doctype
import SdkFeed.Xml.Element
import SdkFeed.Xml.Expansion
import SdkFeed.Xml.Outline

/-!
From the bytes of a document to its element tree, with names as they are written. Reading fails
for every document that is not well formed as a whole; namespaces play no part yet.
-/

namespace SdkFeed.Xml

/-- A tree whose names are as the document writes them. -/
abbrev RawElement := Element String

/-- A well-formed document. -/
structure Document where
  root : RawElement
  doctype : Doctype
  outline : Outline

/-- An element whose end tag is still to come; its content so far is reversed. -/
structure Frame where
  name : String
  attributes : List (String × String)
  line : Nat
  content : List (Item RawElement)

namespace Frame

/-- The element of a frame whose end has come. -/
def element (frame : Frame) : RawElement :=
  .mk frame.name frame.attributes frame.line frame.content.reverse

end Frame

/-- A forest under construction: the open elements, innermost first, and the finished content at
the top, reversed. -/
structure Forest where
  frames : List Frame
  top : List (Item RawElement)

namespace Doctype

/-- The values of the attributes of a start tag: those it specifies, then the declared defaults
of the others. A name may be specified once. -/
def attributes? (doctype : Doctype) (tag : Tag) : Option (List (String × String)) := do
  guard (tag.attributes.map fun (name, _) => name.text).Nodup
  let values ← tag.attributes.mapM fun (name, value) => do
    let isText := ((doctype.rule? tag.name.text name.text).map AttributeRule.isText).getD true
    return (name.text, ← doctype.value? isText value)
  let defaults := doctype.attributes.filterMap fun rule =>
    if rule.element == tag.name.text && (values.lookup rule.key).isNone then
      rule.default.map fun value => (rule.key, value)
    else none
  return values ++ defaults

/-- The replacement texts of the internal entities. -/
def texts (doctype : Doctype) : List (String × List Char) :=
  doctype.entities.filterMap fun
    | (name, .internal text) => some (name, text)
    | _ => none

/-- How much the references of a document of the given size may add to it: it must stay below a
limit, or below a hundred times its own size. -/
def allowance (size : Nat) : Nat :=
  max (8388608 - size) (99 * size) + 1

/-- Whether the references of a document do not add too much to it. -/
def isModest (doctype : Doctype) (size : Nat) (outline : Outline) : Bool :=
  doctype.texts.isEmpty ||
    Extent.isWithin doctype.texts 0 (allowance size) outline.references

end Doctype

namespace Forest

/-- Nothing read yet. -/
def empty : Forest :=
  ⟨[], []⟩

/-- Append finished content, given in reverse, to the innermost open element. -/
def append (forest : Forest) (reversed : List (Item RawElement)) : Forest :=
  match forest.frames with
  | [] => { forest with top := reversed ++ forest.top }
  | frame :: frames =>
    { forest with frames := { frame with content := reversed ++ frame.content } :: frames }

/-- Take one token. `replace` gives the forest that stands for an entity. -/
def step (doctype : Doctype) (replace : String → Option Forest) (forest : Forest) :
    Token → Option Forest
  | .text chars | .escaped chars => some (forest.append [.text (String.ofList chars)])
  | .instruction _ => some forest
  | .reference name =>
    match doctype.entities.lookup name.text with
    | some .unparsed => none
    | some .external => some (forest.append [.reference])
    | some (.internal _) => do return forest.append ((← replace name.text).top ++ [.reference])
    | none => if doctype.toleratesUndeclared then some (forest.append [.reference]) else none
  | .openTag tag => do
    let frame := ⟨tag.name.text, ← doctype.attributes? tag, tag.line, []⟩
    return if tag.isEmpty then forest.append [.child frame.element]
      else { forest with frames := frame :: forest.frames }
  | .closeTag name =>
    match forest.frames with
    | [] => none
    | frame :: frames =>
      if frame.name == name then
        some ({ forest with frames := frames }.append [.child frame.element])
      else none

/-- Take all tokens; every element opened must be closed. -/
def ofTokens? (doctype : Doctype) (replace : String → Option Forest) (tokens : List Token) :
    Option Forest := do
  let forest ← tokens.foldlM (step doctype replace) empty
  guard forest.frames.isEmpty
  return forest

/-- The forest that an entity stands for, through at most `depth` levels of entities. -/
def ofEntity? (doctype : Doctype) : Nat → String → Option Forest
  | 0, _ => none
  | depth + 1, name =>
    match doctype.entities.lookup name with
    | some (.internal text) => do
      ofTokens? doctype (fun inner => ofEntity? doctype depth inner)
        (← Token.ofEntity? .plain text)
    | _ => none

end Forest

namespace Document

/-- The declarations of a document. Entities are looked at before attributes, whose defaults may
refer to them. -/
def doctypeOf? (text : Text) (outline : Outline) : Option Doctype :=
  let standalone := text.declaration.standalone
  match outline.declaration? with
  | none => some (Doctype.empty standalone)
  | some declaration => do
    let doctype ← Doctype.ofDeclaration? standalone declaration.withoutAttributes
    guard (doctype.isModest (Extent.ofChars text.chars).size outline)
    Doctype.ofDeclaration? standalone declaration

/-- Read a decoded text. -/
def ofText? (text : Text) : Option Document := do
  let outline ← Outline.read? (text.body .plain)
  let doctype ← doctypeOf? text outline
  let depth := doctype.entities.length
  let forest ← Forest.ofTokens? doctype (Forest.ofEntity? doctype depth) outline.root
  let [.child root] := forest.top | failure
  return ⟨root, doctype, outline⟩

/-- Read a document. -/
def ofBytes (bytes : List UInt8) : Except ReadError Document := do
  match ofText? (← Text.ofBytes bytes) with
  | some document => return document
  | none => throw .malformed

end Document

end SdkFeed.Xml
