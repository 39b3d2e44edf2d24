import SdkFeed.Text.Integer
import SdkFeed.Yaml.Cursor

/-!
The three written forms of a YAML scalar that may go over several lines: between quotes, plain, and
as a block below an indicator. Main definitions: `quotedText`, `plainText`, and `blockText`; each
gives the text that the form stands for and the place behind it.
-/

namespace SdkFeed.Yaml

/-- What a line break and the breaks after it stand for within folded text: a single line feed is
a space, and of more than one the first is dropped. -/
def foldBreaks (first : Char) (more : List Char) : List Char :=
  if first != '\n' then first :: more
  else if more.isEmpty then [' '] else more

/-- The line breaks between two lines of quoted text, with the white space around them dropped.
Quoted text may not go over the mark between two documents. -/
def quotedBreaks (here : Cursor) : Except Fault (List Char × Cursor) :=
  if here.atMarker then .error .malformed
  else
    match _h : (here.span isGap).2.break? with
    | none => .ok ([], (here.span isGap).2)
    | some (c, next) => do
      let (more, last) ← quotedBreaks next
      return (c :: more, last)
termination_by here.rest.length
decreasing_by exact Nat.lt_of_lt_of_le (Cursor.length_break_lt _h) (Cursor.length_span_le _ _)

/-- White space within quoted text: it is kept within a line and folded at its end. -/
def quotedGap (here : Cursor) : Except Fault (List Char × Cursor) :=
  let (gap, behind) := here.span isGap
  match behind.head? with
  | none => .error .malformed
  | some _ =>
    match behind.break? with
    | none => .ok (gap, behind)
    | some (c, next) => do
      let (more, last) ← quotedBreaks next
      return (foldBreaks c more, last)

/-- The characters that a backslash and a letter stand for. -/
def shortEscapes : List (Char × Char) :=
  [('0', '\x00'), ('a', '\x07'), ('b', '\x08'), ('t', '\t'), ('\t', '\t'), ('n', '\n'),
   ('v', '\x0b'), ('f', '\x0c'), ('r', '\r'), ('e', '\x1b'), (' ', ' '), ('"', '"'),
   ('\\', '\\'), ('/', '/'), ('N', '\x85'), ('_', '\xa0'), ('L', '\u2028'), ('P', '\u2029')]

/-- The letters before a code in hexadecimal digits, with the number of digits. -/
def codeEscapes : List (Char × Nat) :=
  [('x', 2), ('u', 4), ('U', 8)]

/-- The value of a hexadecimal digit. -/
def hexDigit? (c : Char) : Option Nat :=
  if c.isDigit then some (c.toNat - '0'.toNat)
  else if 'a' ≤ c ∧ c ≤ 'f' then some (c.toNat - 'a'.toNat + 10)
  else if 'A' ≤ c ∧ c ≤ 'F' then some (c.toNat - 'A'.toNat + 10)
  else none

/-- The number that so many hexadecimal digits stand for. -/
def hexNumber? (count : Nat) (chars : List Char) : Option Nat := do
  let digits ← (chars.take count).mapM hexDigit?
  guard (digits.length == count)
  return digits.foldl (16 * · + ·) 0

/-- The character of a code. Codes of half a character stand for the replacement character. -/
def charOfCode (code : Nat) : Except Fault Char :=
  if 0x7FFFFFFF < code then .error .tooLarge
  else if 0x10FFFF < code then .error (.outOfRange "chr() arg not in range(0x110000)")
  else if code.isValidChar then .ok (Char.ofNat code)
  else .ok '\uFFFD'

/-- What stands for the text behind a backslash. -/
def escaped (here : Cursor) : Except Fault (List Char × Cursor) :=
  match here.break? with
  | some (_, next) => quotedBreaks next
  | none =>
    match here.head? with
    | none => .error .malformed
    | some c =>
      match shortEscapes.lookup c, codeEscapes.lookup c with
      | some d, _ => .ok ([d], here.next)
      | none, some count =>
        match hexNumber? count here.next.rest with
        | none => .error .malformed
        | some code => do return ([← charOfCode code], here.next.skip count)
      | none, none => .error .malformed

/-- Quoted text up to the quote that ends it. Each round passes at least one character. -/
def quotedFrom (quote : Char) : Nat → List Char → Cursor → Except Fault (List Char × Cursor)
  | 0, _, _ => .error .malformed
  | fuel + 1, acc, here =>
    match here.rest with
    | [] => .error .malformed
    | c :: rest =>
      if c == quote then
        if quote == '\x27' && rest.head? == some '\x27' then
          quotedFrom quote fuel ('\x27' :: acc) (here.skip 2)
        else .ok (acc.reverse, here.next)
      else if c == '\\' && quote == '"' then do
        let (chars, next) ← escaped here.next
        quotedFrom quote fuel (chars.reverse ++ acc) next
      else if isGap c || isBreak c then do
        let (chars, next) ← quotedGap here
        quotedFrom quote fuel (chars.reverse ++ acc) next
      else quotedFrom quote fuel (c :: acc) here.next

/-- The text between quotes that starts with the quote here. -/
def quotedText (quote : Char) (here : Cursor) : Except Fault (String × Cursor) := do
  let (chars, last) ← quotedFrom quote (here.rest.length + 1) [] here.next
  return (String.ofList chars, last)

/-- How many characters of plain text stand in one piece: up to white space, up to a colon that
ends a key, and in a flow collection up to one of its marks. -/
def plainLength (inFlow : Bool) : List Char → Nat
  | [] => 0
  | c :: rest =>
    let endsKey := c == ':' && (isWordEnd rest.head? ||
      inFlow && (rest.head?.any fun d => [',', '[', ']', '\x7b', '\x7d'].contains d))
    if isGap c || isBreak c || endsKey ||
        inFlow && [',', '?', '[', ']', '\x7b', '\x7d'].contains c then 0
    else plainLength inFlow rest + 1

/-- The breaks after the first one between two lines of plain text, and the place where the next
line goes on. There are none if a mark between documents stands there. -/
def plainBreaks (here : Cursor) : Option (List Char) × Cursor :=
  if here.atMarker then (none, here)
  else
    match _h : here.skipSpaces.break? with
    | none => (some [], here.skipSpaces)
    | some (c, next) =>
      let (more, last) := plainBreaks next
      (more.map (c :: ·), last)
termination_by here.rest.length
decreasing_by exact Nat.lt_of_lt_of_le (Cursor.length_break_lt _h) (Cursor.length_span_le _ _)

/-- White space after a piece of plain text: what it stands for, whether it goes over a line
break, and the place behind it. -/
def plainGap (here : Cursor) : List Char × Bool × Cursor :=
  let (gap, behind) := here.span (· == ' ')
  match behind.break? with
  | none => (gap, false, behind)
  | some (c, next) =>
    match plainBreaks next with
    | (none, last) => ([], true, last)
    | (some more, last) => (foldBreaks c more, true, last)

/-- Plain text, the gap before it included: the text, whether a line break follows it, and the
place behind it. Each round passes at least one character. -/
def plainFrom (inFlow : Bool) (margin : Nat) :
    Nat → List Char → Bool → Cursor → List Char × Bool × Cursor
  | 0, _, broke, here => ([], broke, here)
  | fuel + 1, gap, broke, here =>
    let count := if here.head? == some '#' then 0 else plainLength inFlow here.rest
    if count == 0 then ([], broke, here)
    else
      let piece := gap ++ here.rest.take count
      let (gap, broke, behind) := plainGap (here.skip count)
      if gap.isEmpty || behind.head? == some '#' || !inFlow && behind.column < margin then
        (piece, broke, behind)
      else
        let (more, broke, last) := plainFrom inFlow margin fuel gap broke behind
        (piece ++ more, broke, last)

/-- The plain text that starts here. Outside of flow collections its further lines stand at the
margin or right of it. -/
def plainText (inFlow : Bool) (margin : Nat) (here : Cursor) : String × Bool × Cursor :=
  let (chars, broke, last) := plainFrom inFlow margin here.rest.length [] false here
  (String.ofList chars, broke, last)

/-- What becomes of the line breaks at the end of a block. -/
inductive Chomping where
  | strip
  | clip
  | keep
deriving DecidableEq, Repr

/-- The chomping that an indicator asks for. -/
def Chomping.ofChar? : Char → Option Chomping
  | '-' => some .strip
  | '+' => some .keep
  | _ => none

/-- The chomping indicator that stands here, if there is one. -/
def chomping? (here : Cursor) : Option Chomping × Cursor :=
  match here.head?.bind Chomping.ofChar? with
  | some chomping => (some chomping, here.next)
  | none => (none, here)

/-- The indent indicator that stands here, if there is one. It is not 0. -/
def blockColumns? (here : Cursor) : Except Fault (Option Nat × Cursor) :=
  match here.head? with
  | some c =>
    if c == '0' then .error .malformed
    else if c.isDigit then .ok (some (c.toNat - '0'.toNat), here.next)
    else .ok (none, here)
  | none => .ok (none, here)

/-- The indicators in the head of a block: chomping, and the columns of its indent. They come in
either order. -/
def blockIndicators (here : Cursor) : Except Fault (Chomping × Option Nat × Cursor) := do
  let (first, here) := chomping? here
  let (columns, here) ← blockColumns? here
  let (second, here) :=
    if first.isNone && columns.isSome then chomping? here else (none, here)
  if isPartEnd here.head? then return ((first <|> second).getD .clip, columns, here)
  else .error .malformed

/-- The empty lines at the start of a block whose indent is not given: their breaks, and the
greatest column that is reached. -/
def blockLead (greatest : Nat) (here : Cursor) : List Char × Nat × Cursor :=
  match _h : here.skipSpaces.break? with
  | none => ([], max greatest here.skipSpaces.column, here.skipSpaces)
  | some (c, next) =>
    let (more, greatest, last) := blockLead (max greatest here.skipSpaces.column) next
    (c :: more, greatest, last)
termination_by here.rest.length
decreasing_by exact Nat.lt_of_lt_of_le (Cursor.length_break_lt _h) (Cursor.length_span_le _ _)

/-- The empty lines within a block of a given indent. -/
def blockBreaks (indent : Nat) (here : Cursor) : List Char × Cursor :=
  match _h : (here.skipIndent indent).break? with
  | none => ([], here.skipIndent indent)
  | some (c, next) =>
    let (more, last) := blockBreaks indent next
    (c :: more, last)
termination_by here.rest.length
decreasing_by exact Nat.lt_of_lt_of_le (Cursor.length_break_lt _h) (Cursor.length_skip_le _ _)

/-- The lines of a block, from the breaks before the first of them: the text up to the end of the
last line, the break that ends it, and the breaks after that. Each round passes a line. -/
def blockLines (isFolded : Bool) (indent : Nat) :
    Nat → List Char → List Char → List Char → Cursor →
      List Char × List Char × List Char × Cursor
  | 0, text, lineEnd, breaks, here => (text, lineEnd, breaks, here)
  | fuel + 1, text, lineEnd, breaks, here =>
    if here.column != indent || here.rest.isEmpty then (text, lineEnd, breaks, here)
    else
      let isFlush := !here.head?.any isGap
      let (line, behind) := here.span (!isBreak ·)
      let text := text ++ breaks ++ line
      match behind.break? with
      | none =>
        let (breaks, last) := blockBreaks indent behind
        (text, [], breaks, last)
      | some (c, next) =>
        let (breaks, last) := blockBreaks indent next
        if last.column != indent || last.rest.isEmpty then (text, [c], breaks, last)
        else
          let joint :=
            if isFolded && c == '\n' && isFlush && !last.head?.any isGap then
              if breaks.isEmpty then [' '] else []
            else [c]
          blockLines isFolded indent fuel (text ++ joint) [] breaks last

/-- The text of a block below its indicator, which stands here. Its lines stand at the margin or
right of it. -/
def blockText (isFolded : Bool) (margin : Nat) (here : Cursor) :
    Except Fault (String × Cursor) := do
  let (chomping, columns, here) ← blockIndicators here.next
  let here ← here.endLine
  let least := max margin 1
  let (breaks, indent, here) := match columns with
    | some columns =>
      let indent := least + columns - 1
      let (breaks, here) := blockBreaks indent here
      (breaks, indent, here)
    | none =>
      let (breaks, greatest, here) := blockLead 0 here
      (breaks, max least greatest, here)
  let (text, lineEnd, breaks, last) :=
    blockLines isFolded indent (here.rest.length + 1) [] [] breaks here
  let tail := match chomping with
    | .strip => []
    | .clip => lineEnd
    | .keep => lineEnd ++ breaks
  return (String.ofList (text ++ tail), last)

end SdkFeed.Yaml
