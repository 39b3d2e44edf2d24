import SdkFeed.Xml.Token

/-!
The outline of a document: what stands before its root element, the tokens of the root element,
and what stands behind it. An outline says nothing about nesting, entities or names.
-/

namespace SdkFeed.Xml

/-- What may stand before the root element. Comments and white space leave nothing. -/
inductive Opening where
  | instruction (target : Word)
  | declaration (declaration : TypeDeclaration)
deriving Repr

/-- A document taken apart. -/
structure Outline where
  opening : List Opening
  root : List Token
  /-- The targets of the processing instructions behind the root element. -/
  trailing : List Word
deriving Repr

namespace Outline

/-- What stands before the root element, with at most one document type declaration. -/
def openingFrom? (acc : List Opening) (seen : Bool) :
    Nat → Cursor → Option (List Opening × Cursor)
  | 0, _ => none
  | fuel + 1, here =>
    let here := here.skipSpace
    if let some next := here.expect? "<!--".toList then do
      openingFrom? acc seen fuel (← next.comment?)
    else if let some next := here.expect? "<?".toList then do
      let (target, next) ← next.instruction?
      openingFrom? (.instruction target :: acc) seen fuel next
    else if let some next := here.expect? "<!DOCTYPE".toList then do
      guard (!seen)
      let (declaration, next) ← TypeDeclaration.read? next
      openingFrom? (.declaration declaration :: acc) true fuel next
    else some (acc.reverse, here)

/-- What a token behind the root element leaves; only white space and processing instructions may
stand there. -/
def trailing? : Token → Option (List Word)
  | .text chars => if chars.all isSpace then some [] else none
  | .instruction target => some [target]
  | _ => none

/-- Split the tokens of an element, from its start tag on, from those behind its end tag. -/
def splitRoot (acc : List Token) : Nat → List Token → List Token × List Token
  | _, [] => (acc.reverse, [])
  | depth, token :: rest =>
    match token with
    | .openTag tag =>
      if !tag.isEmpty then splitRoot (token :: acc) (depth + 1) rest
      else if depth == 0 then ((token :: acc).reverse, rest)
      else splitRoot (token :: acc) depth rest
    | .closeTag _ =>
      if depth == 1 then ((token :: acc).reverse, rest)
      else splitRoot (token :: acc) (depth - 1) rest
    | _ => splitRoot (token :: acc) depth rest

/-- The outline of the document that starts here. -/
def read? (here : Cursor) : Option Outline := do
  let (opening, here) ← openingFrom? [] false (here.rest.length + 1) here
  let tokens ← Token.all? '\n' here
  let .openTag _ :: _ := tokens | failure
  let (root, behind) := splitRoot [] 0 tokens
  return ⟨opening, root, (← behind.mapM trailing?).flatten⟩

/-- The document type declaration. -/
def declaration? (outline : Outline) : Option TypeDeclaration :=
  outline.opening.findSome? fun
    | .declaration declaration => some declaration
    | .instruction _ => none

end Outline

end SdkFeed.Xml
