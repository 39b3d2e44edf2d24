import SdkFeed.Xml.Reference

/-!
The grammar of the document type declaration and of the markup declarations in it. Reading takes
them apart and judges nothing: which declarations count, and which names they may use, is for those
who read the document to say.
-/

namespace SdkFeed.Xml

/-- What an entity is declared as: a text, something outside the document, or something outside
it that is no markup at all and has a format of its own. -/
inductive Definition where
  | literal (value : Literal)
  | external (system : List Char)
  | unparsed (system : List Char) (format : Word)
deriving DecidableEq, Repr

/-- The declared type of an attribute. -/
inductive AttributeType where
  | text
  | id
  | idReference
  | idReferences
  | entity
  | entities
  | token
  | tokens
  | format (names : List Word)
  | choice (tokens : List Word)
deriving DecidableEq, Repr

/-- The declaration of one attribute of an element type. -/
structure AttributeDefinition where
  name : Word
  type : AttributeType
  /-- The literal of the default, if there is one. -/
  default : Option Literal
deriving DecidableEq, Repr

/-- A markup declaration. Of content models only the names matter, each with the mark of
repetition that follows it. -/
inductive Markup where
  | entity (name : Word) (definition : Definition)
  | parameter (name : Word) (definition : Definition)
  | attributes (element : Word) (definitions : List AttributeDefinition)
  | element (name : Word) (model : List (Word × Option Char))
  | format (name : Word)
  | instruction (target : Word)
  /-- A reference to a parameter entity between declarations. -/
  | reference (parameter : Word)
deriving DecidableEq, Repr

/-- A document type declaration: the name of the root, whether declarations outside the document
are announced, and those inside it. -/
structure TypeDeclaration where
  name : Word
  hasExternal : Bool
  markups : List Markup
deriving Repr

namespace Cursor

/-- The place behind the closing bracket of a declaration or an end tag. -/
def close? (here : Cursor) : Option Cursor :=
  here.skipSpace.expect? ['>']

/-- The place behind the inside of a comment. -/
def comment? (here : Cursor) : Option Cursor := do
  (← here.limitedUpTo? ['-', '-']).2.expect? ['>']

/-- Whether the target of a processing instruction is the reserved one. -/
def isReservedTarget (name : String) : Bool :=
  name.toLower == "xml"

/-- The target of a processing instruction and the place behind the instruction. -/
def instruction? (here : Cursor) : Option (Word × Cursor) := do
  let (target, next) ← here.name?
  guard (!isReservedTarget target.text)
  match next.expect? ['?', '>'] with
  | some next => return (target, next)
  | none => return (target, (← (← next.space?).limitedUpTo? ['?', '>']).2)

/-- The place behind a keyword. -/
def keyword? (word : String) (here : Cursor) : Option Cursor :=
  match here.name? with
  | some (name, next) => if name.text == word then some next else none
  | none => none

/-- A character of a public identifier. -/
def isPublicIdChar (c : Char) : Bool :=
  c.isAlphanum || " \r\n-'()+,./:=?;!*#@$_%".toList.contains c

/-- The place behind a public identifier in quotes. -/
def publicId? (here : Cursor) : Option Cursor := do
  let (id, next) ← here.quoted?
  guard (id.chars.all isPublicIdChar)
  return next

/-- The address in an external identifier. -/
def externalId? (here : Cursor) : Option (List Char × Cursor) := do
  let next ← match here.keyword? "SYSTEM" with
    | some next => some next
    | none => do publicId? (← (← here.keyword? "PUBLIC").space?)
  let (system, next) ← (← next.space?).quoted?
  return (system.chars, next)

end Cursor

namespace Markup

/-- The definition of an entity. A format may follow an address where `hasFormat` allows. -/
def definition? (hasFormat : Bool) (here : Cursor) : Option (Definition × Cursor) :=
  match here.quoted? with
  | some (value, next) => some (.literal value, next)
  | none => do
    let (system, next) ← here.externalId?
    match next.skipSpace.keyword? "NDATA" with
    | none => return (.external system, next)
    | some later =>
      guard (hasFormat && next.space?.isSome)
      let (kind, later) ← (← later.space?).name?
      return (.unparsed system kind, later)

/-- The declaration of an entity. -/
def entity? (here : Cursor) : Option (Markup × Cursor) := do
  let here ← here.space?
  match here.expect? ['%'] with
  | some next =>
    let (name, next) ← (← next.space?).name?
    let (definition, next) ← definition? false (← next.space?)
    return (.parameter name definition, ← next.close?)
  | none =>
    let (name, next) ← here.name?
    let (definition, next) ← definition? true (← next.space?)
    return (.entity name definition, ← next.close?)

/-- Words separated by bars, up to the closing bracket. -/
def choicesFrom? (word? : Cursor → Option (Word × Cursor)) (acc : List Word) :
    Nat → Cursor → Option (List Word × Cursor)
  | 0, _ => none
  | fuel + 1, here => do
    let (word, next) ← word? here.skipSpace
    match next.skipSpace.expect? ['|'] with
    | some next => choicesFrom? word? (word :: acc) fuel next
    | none => return ((word :: acc).reverse, ← next.skipSpace.expect? [')'])

/-- Words between round brackets, separated by bars. -/
def choices? (word? : Cursor → Option (Word × Cursor)) (here : Cursor) :
    Option (List Word × Cursor) := do
  let next ← here.expect? ['(']
  choicesFrom? word? [] next.rest.length next

/-- The type of an attribute. -/
def attributeType? (here : Cursor) : Option (AttributeType × Cursor) :=
  match choices? Cursor.token? here with
  | some (tokens, next) => some (.choice tokens, next)
  | none => do
    let (word, next) ← here.name?
    match word.text with
    | "CDATA" => return (.text, next)
    | "ID" => return (.id, next)
    | "IDREF" => return (.idReference, next)
    | "IDREFS" => return (.idReferences, next)
    | "ENTITY" => return (.entity, next)
    | "ENTITIES" => return (.entities, next)
    | "NMTOKEN" => return (.token, next)
    | "NMTOKENS" => return (.tokens, next)
    | "NOTATION" =>
      let (names, next) ← choices? Cursor.name? (← next.space?)
      return (.format names, next)
    | _ => failure

/-- The literal of a default, if there is one. -/
def attributeDefault? (here : Cursor) : Option (Option Literal × Cursor) :=
  match here.expect? ['#'] with
  | none => do
    let (value, next) ← here.quoted?
    return (some value, next)
  | some next => do
    let (word, next) ← next.name?
    match word.text with
    | "REQUIRED" | "IMPLIED" => return (none, next)
    | "FIXED" =>
      let (value, next) ← (← next.space?).quoted?
      return (some value, next)
    | _ => failure

/-- Attribute definitions up to the end of their declaration. -/
def definitionsFrom? (acc : List AttributeDefinition) :
    Nat → Cursor → Option (List AttributeDefinition × Cursor)
  | 0, _ => none
  | fuel + 1, here =>
    match here.close? with
    | some next => some (acc.reverse, next)
    | none => do
      let (name, next) ← (← here.space?).name?
      let (type, next) ← attributeType? (← next.space?)
      let (default, next) ← attributeDefault? (← next.space?)
      definitionsFrom? (⟨name, type, default⟩ :: acc) fuel next

/-- The declaration of the attributes of an element type. -/
def attributes? (here : Cursor) : Option (Markup × Cursor) := do
  let (owner, next) ← (← here.space?).name?
  let (definitions, next) ← definitionsFrom? [] next.rest.length next
  return (.attributes owner definitions, next)

/-- The mark of repetition that stands here, if there is one. -/
def repetition (here : Cursor) : Option Char × Cursor :=
  match here.rest with
  | '?' :: _ => (some '?', here.advance 1)
  | '*' :: _ => (some '*', here.advance 1)
  | '+' :: _ => (some '+', here.advance 1)
  | _ => (none, here)

/-- The names after the keyword of mixed content. -/
def mixedModel? (acc : List (Word × Option Char)) :
    Nat → Cursor → Option (List (Word × Option Char) × Cursor)
  | 0, _ => none
  | fuel + 1, here =>
    match here.skipSpace.expect? ['|'] with
    | some next => do
      let (name, next) ← next.skipSpace.name?
      mixedModel? ((name, none) :: acc) fuel next
    | none => do
      let next ← here.skipSpace.expect? [')']
      match next.expect? ['*'] with
      | some next => return (acc.reverse, next)
      | none =>
        guard acc.isEmpty
        return ([], next)

/-- A model of child elements. `groups` holds, for each open group, the separator used in it so
far; `isItem` tells that a name or a group must come next. -/
def childModel? (isItem : Bool) (acc : List (Word × Option Char)) :
    Nat → List (Option Char) → Cursor → Option (List (Word × Option Char) × Cursor)
  | 0, _, _ => none
  | _, [], here => some (acc.reverse, here)
  | fuel + 1, separator :: groups, here =>
    let here := here.skipSpace
    match isItem, here.rest with
    | true, '(' :: _ => childModel? true acc fuel (none :: separator :: groups) (here.advance 1)
    | true, _ => do
      let (name, next) ← here.name?
      let (mark, next) := repetition next
      childModel? false ((name, mark) :: acc) fuel (separator :: groups) next
    | false, ')' :: _ => childModel? false acc fuel groups (repetition (here.advance 1)).2
    | false, c :: _ => do
      guard ((c == ',' || c == '|') && separator.getD c == c)
      childModel? true acc fuel (some c :: groups) (here.advance 1)
    | false, [] => none

/-- The content model of an element type. -/
def model? (here : Cursor) : Option (List (Word × Option Char) × Cursor) :=
  match here.expect? ['('] with
  | none => do
    let (word, next) ← here.name?
    guard (word.text == "EMPTY" || word.text == "ANY")
    return ([], next)
  | some inside =>
    match inside.skipSpace.expect? "#PCDATA".toList with
    | some mixed => mixedModel? [] mixed.rest.length mixed
    | none => childModel? true [] inside.rest.length [none] inside

/-- The declaration of an element type. -/
def element? (here : Cursor) : Option (Markup × Cursor) := do
  let (name, next) ← (← here.space?).name?
  let (model, next) ← model? (← next.space?)
  return (.element name model, ← next.close?)

/-- The declaration of a format. It may have a public identifier and no address. -/
def format? (here : Cursor) : Option (Markup × Cursor) := do
  let (name, next) ← (← here.space?).name?
  let next ← next.space?
  match next.externalId? with
  | some (_, next) => return (.format name, ← next.close?)
  | none => return (.format name, ← (← (← (← next.keyword? "PUBLIC").space?).publicId?).close?)

/-- The declaration that stands here, from its opening mark on. -/
def declaration? (here : Cursor) : Option (Markup × Cursor) :=
  if let some next := here.expect? "<!ENTITY".toList then entity? next
  else if let some next := here.expect? "<!ATTLIST".toList then attributes? next
  else if let some next := here.expect? "<!ELEMENT".toList then element? next
  else if let some next := here.expect? "<!NOTATION".toList then format? next
  else none

/-- The declarations that stand here one after the other, with processing instructions and
references between them. Comments leave nothing. -/
def allFrom? (acc : List Markup) : Nat → Cursor → Option (List Markup × Cursor)
  | 0, _ => none
  | fuel + 1, here =>
    let here := here.skipSpace
    match here.rest with
    | '%' :: _ => do
      let (name, next) ← (here.advance 1).name?
      allFrom? (.reference name :: acc) fuel (← next.expect? [';'])
    | '<' :: '?' :: _ => do
      let (target, next) ← (here.advance 2).instruction?
      allFrom? (.instruction target :: acc) fuel next
    | '<' :: '!' :: '-' :: '-' :: _ => do allFrom? acc fuel (← (here.advance 4).comment?)
    | '<' :: _ => do
      let (markup, next) ← declaration? here
      allFrom? (markup :: acc) fuel next
    | _ => some (acc.reverse, here)

/-- The declarations that stand here. Each takes a character at least, so the length of the text
bounds their number. -/
def all? (here : Cursor) : Option (List Markup × Cursor) :=
  allFrom? [] (here.rest.length + 1) here

/-- The declarations that a text consists of. -/
def whole? (here : Cursor) : Option (List Markup) :=
  match all? here with
  | some (markups, next) => if next.rest.isEmpty then some markups else none
  | none => none

end Markup

namespace TypeDeclaration

/-- Read a document type declaration from behind its opening keyword. -/
def read? (here : Cursor) : Option (TypeDeclaration × Cursor) := do
  let (name, next) ← (← here.space?).name?
  let (hasExternal, next) ← match next.skipSpace.name? with
    | some _ => do pure (true, (← (← next.space?).externalId?).2)
    | none => pure (false, next)
  match next.skipSpace.expect? ['['] with
  | none => return (⟨name, hasExternal, []⟩, ← next.close?)
  | some inside =>
    let (markups, next) ← Markup.all? inside
    return (⟨name, hasExternal, markups⟩, ← (← next.expect? [']']).close?)

end TypeDeclaration

end SdkFeed.Xml
