import SdkFeed.Xml.Cursor
import SdkFeed.Xml.Label

/-!
The first lines of a document: the declaration of version, encoding and standalone status, and
the decoding of the whole document that it settles.
-/

namespace SdkFeed.Xml

/-- What the declaration of a document says. A document without one declares nothing. -/
structure Declaration where
  version : Option String
  encoding : Option String
  standalone : Bool
deriving DecidableEq, Repr

namespace Declaration

/-- The declaration of a document that has none. -/
def absent : Declaration :=
  ⟨none, none, false⟩

/-- A character that the values of a declaration may hold. -/
def isValueChar (c : Char) : Bool :=
  c.isAlphanum || c == '.' || c == '-' || c == '_'

/-- One item `name = "value"` after white space; `some none` where only white space is left. -/
def item? (here : Cursor) : Option (Option (String × String × Cursor)) := do
  if here.rest.isEmpty then return none
  let start ← here.space?
  if start.rest.isEmpty then return none
  let (name, next) := start.span fun c => !(isSpace c || c == '=')
  let next ← next.skipSpace.expect? ['=']
  let (value, next) ← next.skipSpace.quoted?
  if name.isEmpty || !value.chars.all isValueChar then failure
  return some (String.ofList name, String.ofList value.chars, next)

/-- Read the text between the opening of the declaration and its closing mark: the version comes
first and is required, the encoding and the standalone status follow in this order. -/
def read? (here : Cursor) : Option Declaration := do
  let some ("version", version, next) ← item? here | failure
  let some (name, value, next) ← item? next | return ⟨some version, none, false⟩
  if name == "encoding" then
    guard ((value.toList.head?.map Char.isAlpha).getD false)
    let some (name, status, next) ← item? next | return ⟨some version, some value, false⟩
    guard (name == "standalone" && (status == "yes" || status == "no") &&
      next.skipSpace.rest.isEmpty)
    return ⟨some version, some value, status == "yes"⟩
  else
    guard (name == "standalone" && (value == "yes" || value == "no") && next.skipSpace.rest.isEmpty)
    return ⟨some version, none, value == "yes"⟩

/-- The declaration at the start of the given characters and the number of characters it takes. A
longer name than its keyword belongs to a processing instruction. -/
def ofStart? (chars : List Char) : Option (Declaration × Nat) :=
  match (Cursor.start .plain chars).expect? "<?xml".toList with
  | none => some (absent, 0)
  | some inside =>
    if (inside.rest.head?.map inside.dialect.alphabet.isNameChar).getD false then some (absent, 0)
    else do
      let (content, next) ← inside.upTo? ['?', '>']
      return (← read? (Cursor.start .plain content), next.offset)

end Declaration

/-- The decoded text of a document: its declaration, its characters, the number of those that the
declaration takes, and the columns that a byte order mark takes before them. -/
structure Text where
  declaration : Declaration
  chars : List Char
  start : Nat
  indent : Nat
deriving Repr

namespace Text

/-- Write each pair of carriage return and line feed as one line feed. -/
def joinLineEnds (acc : List Char) : List Char → List Char
  | [] => acc.reverse
  | '\r' :: '\n' :: rest => joinLineEnds ('\n' :: acc) rest
  | c :: rest => joinLineEnds (c :: acc) rest

/-- The characters of units of 16 bits up to the first closing bracket. -/
def wideOpening (bigEndian : Bool) (acc : List Char) : List UInt8 → List Char
  | a :: b :: rest =>
    let code := if bigEndian then a.toNat * 256 + b.toNat else b.toNat * 256 + a.toNat
    if code == '>'.toNat then acc.reverse else wideOpening bigEndian (Char.ofNat code :: acc) rest
  | _ => acc.reverse

/-- The characters up to the first closing bracket. A declaration holds only ASCII characters, so
they can be told before the character set is. -/
def opening (charset : Charset) (bytes : List UInt8) : List Char :=
  let chars := match charset with
    | .utf16 bigEndian _ => wideOpening bigEndian [] bytes
    | _ => (bytes.takeWhile (· != 0x3E)).map fun b => Char.ofNat b.toNat
  joinLineEnds [] chars ++ ['>']

/-- The decoded text, if every character of it is one that a document may hold. -/
def ofChars? (declaration : Declaration) (start indent : Nat) (chars : List Char) : Option Text :=
  if chars.all fun c => isCharacter c.toNat then
    some ⟨declaration, joinLineEnds [] chars, start, indent⟩
  else none

/-- Decode a document: the first bytes announce a character set, the declaration settles it, and
every character must be one that a document may hold. -/
def ofBytes (bytes : List UInt8) : Except ReadError Text := do
  let (announced, isMarked, bytes) := Charset.announced bytes
  let some (declaration, start) := Declaration.ofStart? (opening announced bytes)
    | throw .malformed
  let charset ← match declaration.encoding with
    | none => pure announced
    | some name => announced.settle name
  let indent := if isMarked then charset.markWidth else 0
  match (charset.decode bytes).bind (ofChars? declaration start indent) with
  | some text => return text
  | none => throw .malformed

/-- The place behind the declaration. -/
def body (text : Text) (dialect : Dialect) : Cursor where
  rest := text.chars.drop text.start
  line := 1 + (text.chars.take text.start).count '\n'
  offset := text.start
  dialect := dialect

/-- Whether a line ends with a character. -/
def isLineEnd (c : Char) : Bool :=
  c == '\n' || c == '\r'

/-- The line, counted from one, and the column, counted from zero, of the place behind a number of
characters. A byte order mark takes columns of the first line. -/
def position (text : Text) (offset : Nat) : Nat × Nat :=
  let passed := text.chars.take offset
  let column := (passed.reverse.takeWhile (!isLineEnd ·)).length
  let ends := passed.countP isLineEnd
  (ends + 1, if ends == 0 then text.indent + column else column)

end Text

end SdkFeed.Xml
