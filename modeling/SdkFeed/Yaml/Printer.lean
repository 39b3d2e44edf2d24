import SdkFeed.Text.Quoted
import SdkFeed.Yaml.Tag

/-!
Writing lists of records of texts: an item for each record, and a line for each of its fields. A
text is written plain where it would be read as itself, between single quotes where these can hold
it, and with escapes between double quotes otherwise. Long texts go on in further lines.
Main definition: `renderRecords`.
-/

namespace SdkFeed.Yaml

/-- The columns that a line may fill before a text goes on in the next one. -/
def lineWidth : Nat :=
  80

/-- The end of a line within a text, and the indent of the next. -/
def continuation : List Char :=
  ['\n', ' ', ' ', ' ', ' ']

/-- The columns of the indent of a further line. -/
def continuationIndent : Nat :=
  4

/-- How a text is written. -/
inductive Style where
  | plain
  | single
  | double
deriving DecidableEq, Repr

namespace Style

/-- Whether a character can stand in a text without an escape. -/
def isBare (c : Char) : Bool :=
  c == '\n' || (' ' ≤ c && c ≤ '~')

/-- Whether a line break touches a space. -/
def breaksAtSpace : List Char → Bool
  | ' ' :: '\n' :: _ | '\n' :: ' ' :: _ => true
  | _ :: rest => breaksAtSpace rest
  | [] => false

/-- Whether white space stands at an end of a text. -/
def isPadded (chars : List Char) : Bool :=
  let isSpace (c : Option Char) : Bool := c == some ' ' || c == some '\n'
  isSpace chars.head? || isSpace chars.getLast?

/-- Whether a colon ends a word, or a number sign starts one. -/
def hasMark : List Char → Bool
  | ':' :: rest => isWordEnd rest.head? || hasMark rest
  | ' ' :: '#' :: _ | '\n' :: '#' :: _ => true
  | _ :: rest => hasMark rest
  | [] => false

/-- Whether the start of a text means something other than the text. -/
def startsWithMark (chars : List Char) : Bool :=
  ['-', '-', '-'].isPrefixOf chars || ['.', '.', '.'].isPrefixOf chars ||
    match chars with
    | c :: rest =>
      "#,[]&*!|>\x27\"%@\x60\x7b\x7d".toList.contains c ||
        ((c == '?' || c == ':' || c == '-') && isWordEnd rest.head?)
    | [] => false

/-- The style of a text. -/
def ofText (text : String) : Style :=
  let chars := text.toList
  if !chars.all isBare || breaksAtSpace chars then double
  else if Tag.ofPlain text != .text || isPadded chars || chars.contains '\n' ||
      startsWithMark chars || hasMark chars then single
  else plain

end Style

/-- Plain text from a column on. A line ends at a single space behind its full width. `afterSpace`
tells that a space came before. -/
def plainLines (column : Nat) (afterSpace : Bool) : List Char → List Char
  | [] => []
  | c :: rest =>
    let isSingle := c == ' ' && !afterSpace && rest.head? != some ' '
    if isSingle && lineWidth < column then
      continuation ++ plainLines continuationIndent true rest
    else c :: plainLines (column + 1) (c == ' ') rest

/-- The text between single quotes from a column on. A quote is written twice. A row of line breaks
is written with one more, since reading folds them. Lines end as in plain text, but not at a space
at an end of the text. -/
def singleLines (column : Nat) (isStart afterSpace afterBreak : Bool) : List Char → List Char
  | [] => if afterBreak then continuation.tail else []
  | '\n' :: rest =>
    (if afterBreak then ['\n'] else ['\n', '\n']) ++ singleLines column false false true rest
  | c :: rest =>
    let indent := if afterBreak then continuation.tail else []
    let column := if afterBreak then continuationIndent else column
    let isSingle := c == ' ' && !isStart && !afterSpace && !rest.isEmpty && rest.head? != some ' '
    if isSingle && lineWidth < column then
      indent ++ continuation ++ singleLines continuationIndent false true false rest
    else if c == '\x27' then
      indent ++ ['\x27', '\x27'] ++ singleLines (column + 2) false false false rest
    else indent ++ c :: singleLines (column + 1) false (c == ' ') false rest

/-- The letters that stand for characters behind a backslash. -/
def writtenEscapes : List (Char × Char) :=
  [('\x00', '0'), ('\x07', 'a'), ('\x08', 'b'), ('\t', 't'), ('\n', 'n'), ('\x0b', 'v'),
   ('\x0c', 'f'), ('\r', 'r'), ('\x1b', 'e'), ('"', '"'), ('\\', '\\'), ('\x85', 'N'),
   ('\xa0', '_'), ('\u2028', 'L'), ('\u2029', 'P')]

/-- A code in hexadecimal digits, in upper case. -/
def codeDigits (width code : Nat) : List Char :=
  (Text.hexDigits width code).map Char.toUpper

/-- The escape of a character between double quotes, if it needs one. -/
def escape? (c : Char) : Option (List Char) :=
  match writtenEscapes.lookup c with
  | some letter => some ['\\', letter]
  | none =>
    if ' ' ≤ c && c ≤ '~' then none
    else if c.toNat ≤ 0xFF then some ('\\' :: 'x' :: codeDigits 2 c.toNat)
    else if c.toNat ≤ 0xFFFF then some ('\\' :: 'u' :: codeDigits 4 c.toNat)
    else some ('\\' :: 'U' :: codeDigits 8 c.toNat)

/-- The end of a line between double quotes. A space at the start of the next line is kept by a
backslash. -/
def doubleBreak (next : Option Char) : List Char × Nat :=
  if next == some ' ' then ('\\' :: continuation ++ ['\\'], continuationIndent + 1)
  else ('\\' :: continuation, continuationIndent)

/-- The text between double quotes from a column on. A line ends before a space and around an
escape behind its full width, but not at an end of the text. -/
def doubleLines (column : Nat) (isStart afterEscape : Bool) : List Char → List Char
  | [] => []
  | c :: rest =>
    let isInner := !isStart && !rest.isEmpty
    match escape? c with
    | some written =>
      let column := column + written.length
      if isInner && lineWidth + 1 < column then
        let (lineBreak, column) := doubleBreak rest.head?
        written ++ lineBreak ++ doubleLines column false true rest
      else written ++ doubleLines column false true rest
    | none =>
      if isInner && (c == ' ' || afterEscape) && lineWidth < column then
        let (lineBreak, column) := doubleBreak (some c)
        lineBreak ++ c :: doubleLines (column + 1) false false rest
      else c :: doubleLines (column + 1) false false rest

/-- A text written from a column on. -/
def writeText (column : Nat) (text : String) : List Char :=
  match Style.ofText text with
  | .plain => plainLines column false text.toList
  | .single => '\x27' :: singleLines (column + 1) true false false text.toList ++ ['\x27']
  | .double => '"' :: doubleLines (column + 1) true false text.toList ++ ['"']

/-- A field of a record in its line. The name is written plain. -/
def writeField (lead : String) (field : String × String) : List Char :=
  let start := lead ++ field.1 ++ ": "
  start.toList ++ writeText start.length field.2 ++ ['\n']

/-- The lines of a record. -/
def writeRecord : List (String × String) → List Char
  | [] => "- \x7b\x7d\n".toList
  | first :: rest => writeField "- " first ++ rest.flatMap (writeField "  ")

/-- A list of records of texts. -/
def renderRecords (records : List (List (String × String))) : String :=
  if records.isEmpty then "[]\n" else String.ofList (records.flatMap writeRecord)

end SdkFeed.Yaml
