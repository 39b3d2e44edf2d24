import SdkFeed.Text.Utf8
import SdkFeed.Xml.Character

/-!
A place in a document: the characters still ahead, the number of the current line, and the number
of characters passed. Every scanning step of the library is built from the few moves below. What
they read keeps the place where it stood, so that a fault found later can be blamed on it.
-/

namespace SdkFeed.Xml

/-- What a reader takes for a document: the alphabet of names, and the greatest number of bytes in one
text, comment, instruction or literal, if there is one. -/
structure Dialect where
  alphabet : Alphabet
  limit : Option Nat
deriving DecidableEq, Repr

namespace Dialect

/-- The names of the fourth edition, and no limit. -/
def plain : Dialect :=
  ⟨.narrow, none⟩

/-- The names of the fifth edition, and a limit. -/
def strict : Dialect :=
  ⟨.broad, some 10000000⟩

/-- Whether a number of bytes is within the limit. -/
def admits (dialect : Dialect) (size : Nat) : Bool :=
  dialect.limit.all (size ≤ ·)

end Dialect

/-- The characters ahead, the line, counted from one, that the next of them stands on, the number
of characters before it, and the dialect of the document. -/
structure Cursor where
  rest : List Char
  line : Nat
  offset : Nat
  dialect : Dialect
deriving Repr

/-- A name and the number of characters before it. -/
structure Word where
  text : String
  offset : Nat
deriving DecidableEq, Repr

/-- The inside of a literal and the number of characters before it. -/
structure Literal where
  chars : List Char
  offset : Nat
deriving DecidableEq, Repr

namespace Cursor

/-- The place before all characters of a text. -/
def start (dialect : Dialect) (chars : List Char) : Cursor :=
  ⟨chars, 1, 0, dialect⟩

/-- The place behind a number of characters that hold no line feed. -/
def advance (here : Cursor) (count : Nat) : Cursor :=
  { here with rest := here.rest.drop count, offset := here.offset + count }

/-- The line after passing a character. -/
def lineAfter (line : Nat) (c : Char) : Nat :=
  if c = '\n' then line + 1 else line

/-- Walk over the longest run of characters that satisfy `p`. -/
def spanFrom (p : Char → Bool) (here : Cursor) (acc : List Char) (line offset : Nat) :
    List Char → List Char × Cursor
  | [] => (acc.reverse, { here with rest := [], line, offset })
  | c :: rest =>
    if p c then spanFrom p here (c :: acc) (lineAfter line c) (offset + 1) rest
    else (acc.reverse, { here with rest := c :: rest, line, offset })

/-- The longest run of characters that satisfy `p`, and the place behind it. -/
def span (p : Char → Bool) (here : Cursor) : List Char × Cursor :=
  spanFrom p here [] here.line here.offset here.rest

/-- Walk to the first occurrence of `mark`. -/
def upToFrom (mark : List Char) (here : Cursor) (acc : List Char) (line offset : Nat) :
    List Char → Option (List Char × Cursor)
  | [] => none
  | c :: rest =>
    if mark.isPrefixOf (c :: rest) then
      some (acc.reverse,
        { here with
          rest := (c :: rest).drop mark.length, line, offset := offset + mark.length })
    else upToFrom mark here (c :: acc) (lineAfter line c) (offset + 1) rest

/-- The characters before the first occurrence of `mark`, and the place behind that occurrence.
The mark holds no line feed. -/
def upTo? (mark : List Char) (here : Cursor) : Option (List Char × Cursor) :=
  upToFrom mark here [] here.line here.offset here.rest

/-- The characters before the first occurrence of `mark`, if they are within the limit, and the place
behind that occurrence. -/
def limitedUpTo? (mark : List Char) (here : Cursor) : Option (List Char × Cursor) := do
  let (chars, next) ← here.upTo? mark
  guard (here.dialect.admits (Text.utf8Count chars))
  return (chars, next)

/-- The place behind the given characters, if they stand here. They hold no line feed. -/
def expect? (word : List Char) (here : Cursor) : Option Cursor :=
  if word.isPrefixOf here.rest then some (here.advance word.length) else none

/-- The place behind any white space. -/
def skipSpace (here : Cursor) : Cursor :=
  (here.span isSpace).2

/-- The place behind white space of at least one character. -/
def space? (here : Cursor) : Option Cursor :=
  match here.span isSpace with
  | ([], _) => none
  | (_, next) => some next

/-- A row of name characters that stands here. -/
def token? (here : Cursor) : Option (Word × Cursor) :=
  match here.span here.dialect.alphabet.isNameChar with
  | ([], _) => none
  | (chars, next) => some (⟨String.ofList chars, here.offset⟩, next)

/-- A name that stands here. -/
def name? (here : Cursor) : Option (Word × Cursor) :=
  match here.rest with
  | [] => none
  | c :: _ => if here.dialect.alphabet.isNameStart c then here.token? else none

/-- A literal in single or double quotes that stands here, without its quotes. -/
def quoted? (here : Cursor) : Option (Literal × Cursor) := do
  let mark ← match here.rest with
    | '"' :: _ => some '"'
    | '\x27' :: _ => some '\x27'
    | _ => none
  let (chars, next) ← (here.advance 1).upTo? [mark]
  return (⟨chars, here.offset + 1⟩, next)

end Cursor

end SdkFeed.Xml
