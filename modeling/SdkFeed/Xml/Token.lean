import SdkFeed.Xml.Markup

/-!
The tokens of element content. Comments leave no token; a run of text between two pieces of
markup is one token.
-/

namespace SdkFeed.Xml

/-- A start tag. Attribute values are still literals. -/
structure Tag where
  name : Word
  attributes : List (Word × Literal)
  isEmpty : Bool
  /-- The number of characters before its opening bracket. -/
  offset : Nat
  /-- The line on which it ends. -/
  line : Nat
deriving DecidableEq, Repr

/-- A piece of element content. -/
inductive Token where
  | openTag (tag : Tag)
  | closeTag (name : String)
  /-- Characters that stand literally in the document. -/
  | text (chars : List Char)
  /-- Characters of a marked section, or a character given by reference. -/
  | escaped (chars : List Char)
  | reference (entity : Word)
  | instruction (target : Word)
deriving DecidableEq, Repr

namespace Tag

/-- The attributes of a start tag up to its end; the flag tells an empty element. -/
def attributes? (acc : List (Word × Literal)) :
    Nat → Cursor → Option (List (Word × Literal) × Bool × Cursor)
  | 0, _ => none
  | fuel + 1, here =>
    let (space, next) := here.span isSpace
    match next.rest with
    | '>' :: _ => some (acc.reverse, false, next.advance 1)
    | '/' :: '>' :: _ => some (acc.reverse, true, next.advance 2)
    | _ => do
      guard (!space.isEmpty)
      let (name, next) ← next.name?
      let next ← next.skipSpace.expect? ['=']
      let (value, next) ← next.skipSpace.quoted?
      attributes? ((name, value) :: acc) fuel next

/-- The start tag whose opening bracket stands here. -/
def read? (limit : Nat) (here : Cursor) : Option (Tag × Cursor) := do
  let (name, next) ← (here.advance 1).name?
  let (attributes, isEmpty, next) ← attributes? [] limit next
  return (⟨name, attributes, isEmpty, here.offset, next.line⟩, next)

end Tag

namespace Token

/-- A reference, from behind its ampersand. -/
def reference? (here : Cursor) : Option (Token × Cursor) := do
  let (inside, next) ← here.upTo? [';']
  match ← Piece.ofReference? here.dialect.alphabet here.offset inside with
  | .literal c | .character c => return (.escaped [c], next)
  | .entity name =>
    match predefined? name.text with
    | some c => return (.escaped [c], next)
    | none => return (.reference name, next)

/-- Whether the closing mark of a marked section stands in a text. -/
def hasSectionEnd : List Char → Bool
  | ']' :: ']' :: '>' :: _ => true
  | _ :: rest => hasSectionEnd rest
  | [] => false

/-- The next piece of content: a token, or nothing for a comment. `lineEnd` is what a carriage
return reads as: a line feed in the document, itself in the replacement text of an entity. `limit`
bounds the number of attributes. -/
def next? (lineEnd : Char) (limit : Nat) (here : Cursor) : Option (Option Token × Cursor) :=
  let unify (chars : List Char) := chars.map fun c => if c == '\r' then lineEnd else c
  match here.rest with
  | [] => none
  | '<' :: '/' :: _ => do
    let (name, next) ← (here.advance 2).name?
    return (some (.closeTag name.text), ← next.close?)
  | '<' :: '!' :: '-' :: '-' :: _ => do return (none, ← (here.advance 4).comment?)
  | '<' :: '!' :: _ => do
    let inside ← here.expect? "<![CDATA[".toList
    let (chars, next) ← inside.upTo? [']', ']', '>']
    return (some (.escaped (unify chars)), next)
  | '<' :: '?' :: _ => do
    let (target, next) ← (here.advance 2).instruction?
    return (some (.instruction target), next)
  | '<' :: _ => do
    let (tag, next) ← Tag.read? limit here
    return (some (.openTag tag), next)
  | '&' :: _ => do
    let (token, next) ← reference? (here.advance 1)
    return (some token, next)
  | _ => do
    let (chars, next) := here.span fun c => !(c == '<' || c == '&')
    guard (!hasSectionEnd chars)
    return (some (.text (unify chars)), next)

/-- The number of bytes in the text that a piece of content belongs to, with `size` bytes of it before
the piece. Whatever is no text ends it, a comment as well. -/
def textSize (size : Nat) : Option Token → Nat
  | some (.text chars) | some (.escaped chars) => size + Text.utf8Count chars
  | _ => 0

/-- All tokens ahead, with `size` bytes of text right before them. What bounds their number bounds
the number of attributes in one of them too. -/
def allFrom? (lineEnd : Char) (acc : List Token) (size : Nat) : Nat → Cursor → Option (List Token)
  | 0, _ => none
  | fuel + 1, here =>
    if here.rest.isEmpty then some acc.reverse
    else do
      let (token, next) ← next? lineEnd (fuel + 1) here
      let size := textSize size token
      guard (here.dialect.admits size)
      allFrom? lineEnd (token.toList ++ acc) size fuel next

/-- The tokens up to the end of the input. Each takes a character at least, so the length of the
input bounds their number. -/
def all? (lineEnd : Char) (here : Cursor) : Option (List Token) :=
  allFrom? lineEnd [] 0 (here.rest.length + 1) here

/-- The tokens of the replacement text of an entity. -/
def ofEntity? (dialect : Dialect) (text : List Char) : Option (List Token) :=
  all? '\r' (Cursor.start dialect text)

end Token

end SdkFeed.Xml
