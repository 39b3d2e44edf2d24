import SdkFeed.Text.Utf8
import SdkFeed.Yaml.Scalar

/-!
The tokens of YAML: the words and marks of a text together with the starts and ends of blocks,
which only the indent shows. A word is known to be a key only when the colon behind it is reached;
until then its place is pending, and the marks of the key are put before it afterwards.
Main definition: `Tokens.ofText`.
-/

namespace SdkFeed.Yaml

/-- An instruction before a document. -/
inductive Directive where
  | version (major minor : Nat)
  | handle (handle stem : String)
  | unknown
deriving DecidableEq, Repr

/-- The tag of a node as written: the handle of a directive and what follows it, or a full name. -/
structure TagName where
  handle : Option String
  suffix : String
deriving DecidableEq, Repr

/-- A word or a mark of a text. -/
inductive Token where
  | directive (directive : Directive)
  | documentStart
  | documentEnd
  | blockSequence
  | blockMapping
  | blockEnd
  | flowSequence
  | flowSequenceEnd
  | flowMapping
  | flowMappingEnd
  | blockEntry
  | flowEntry
  | key
  | value
  | alias (name : String)
  | anchor (name : String)
  | tag (name : TagName)
  | scalar (isPlain : Bool) (text : String)
deriving DecidableEq, Repr

/-- The characters of names. -/
def isWordChar (c : Char) : Bool :=
  c.isAlphanum || c == '-' || c == '_'

/-- The characters of the names of tags, besides escapes. -/
def isTagChar (c : Char) : Bool :=
  c.isAlphanum || "-;/?:@&=+$,_.!~*\x27()[]".toList.contains c

/-- The bytes that stand here as escapes, and the place behind them. -/
def escapedBytes : Nat → Cursor → Except Fault (List UInt8 × Cursor)
  | 0, here => .ok ([], here)
  | fuel + 1, here =>
    if here.head? != some '%' then .ok ([], here)
    else
      match hexNumber? 2 here.next.rest with
      | none => .error .malformed
      | some byte => do
        let (more, last) ← escapedBytes fuel (here.next.skip 2)
        return (byte.toUInt8 :: more, last)

/-- The name of a tag, with escapes replaced. Each round passes at least one character. -/
def tagCharsFrom : Nat → List Char → Cursor → Except Fault (List Char × Cursor)
  | 0, acc, here => .ok (acc, here)
  | fuel + 1, acc, here =>
    let (chars, here) := here.span isTagChar
    if here.head? != some '%' then .ok (acc ++ chars, here)
    else do
      let (bytes, next) ← escapedBytes here.rest.length here
      match Text.decodeUtf8? bytes with
      | none => .error .malformed
      | some decoded => tagCharsFrom fuel (acc ++ chars ++ decoded) next

/-- The name of a tag that stands here. It is not empty. -/
def tagChars (here : Cursor) : Except Fault (String × Cursor) := do
  let (chars, last) ← tagCharsFrom (here.rest.length + 1) [] here
  if chars.isEmpty then .error .malformed else return (String.ofList chars, last)

/-- The handle of a tag that stands here: one exclamation mark, or a name between two. -/
def tagHandle (here : Cursor) : Except Fault (String × Cursor) :=
  if here.head? != some '!' then .error .malformed
  else if here.next.head? == some ' ' then .ok ("!", here.next)
  else
    let (name, behind) := here.next.span isWordChar
    if behind.head? == some '!' then .ok (String.ofList ('!' :: name ++ ['!']), behind.next)
    else .error .malformed

/-- The tag that stands here. -/
def tagName (here : Cursor) : Except Fault (TagName × Cursor) := do
  let (name, last) ← match here.next.head? with
    | some '<' => do
      let (suffix, behind) ← tagChars (here.skip 2)
      if behind.head? == some '>' then pure (⟨none, suffix⟩, behind.next) else .error .malformed
    | c =>
      if isWordEnd c then pure (⟨none, "!"⟩, here.next)
      else do
        let word := here.next.rest.takeWhile fun c => !isPartEnd (some c)
        let (handle, behind) ← if word.contains '!' then tagHandle here else pure ("!", here.next)
        let (suffix, last) ← tagChars behind
        pure (⟨some handle, suffix⟩, last)
  if isPartEnd last.head? then return (name, last) else .error .malformed

/-- The name of an anchor that stands here behind its indicator. -/
def anchorName (here : Cursor) : Except Fault (String × Cursor) :=
  let (name, last) := here.next.span isWordChar
  if name.isEmpty then .error .malformed
  else if isWordEnd last.head? ||
      last.head?.any ['?', ':', ',', ']', '\x7d', '%', '@', '\x60'].contains then
    .ok (String.ofList name, last)
  else .error .malformed

/-- A number in a directive. -/
def directiveNumber (here : Cursor) : Except Fault (Nat × Cursor) :=
  let (digits, last) := here.span Char.isDigit
  if digits.isEmpty then .error .malformed
  else if Text.digitLimit < digits.length then
    .error (.outOfRange (Text.tooManyDigits digits.length))
  else .ok (Text.ofDigits (digits.map fun c => c.toNat - '0'.toNat), last)

/-- The version that a directive names. -/
def versionDirective (here : Cursor) : Except Fault (Directive × Cursor) := do
  let (major, here) ← directiveNumber here.skipSpaces
  if here.head? != some '.' then .error .malformed
  else
    let (minor, here) ← directiveNumber here.next
    if isPartEnd here.head? then return (.version major minor, here) else .error .malformed

/-- The handle that a directive declares, with the stem that it stands for. -/
def handleDirective (here : Cursor) : Except Fault (Directive × Cursor) := do
  let (handle, here) ← tagHandle here.skipSpaces
  if here.head? != some ' ' then .error .malformed
  else
    let (stem, here) ← tagChars here.skipSpaces
    if isPartEnd here.head? then return (.handle handle stem, here) else .error .malformed

/-- The directive that stands here. -/
def directive (here : Cursor) : Except Fault (Directive × Cursor) := do
  let (name, here) := here.next.span isWordChar
  if name.isEmpty || !isPartEnd here.head? then .error .malformed
  else
    let (found, here) ← match String.ofList name with
      | "YAML" => versionDirective here
      | "TAG" => handleDirective here
      | _ => pure (.unknown, (here.span (!isBreak ·)).2)
    return (found, ← here.endLine)

/-- A word that turns out to be a key if a colon follows it. -/
structure PendingKey where
  /-- The number of tokens before the word. -/
  count : Nat
  /-- The word can be nothing but a key. -/
  isRequired : Bool
  index : Nat
  line : Nat
  column : Nat
deriving Repr

/-- How far a text is read. -/
structure Reading where
  here : Cursor
  /-- The tokens read, the last one first. -/
  tokens : List Token
  /-- One more than the column of the innermost block, or 0 outside of all blocks. -/
  margin : Nat
  /-- The margins of the outer blocks. -/
  margins : List Nat
  /-- Whether a key may start here. -/
  allowsKey : Bool
  /-- The pending key of each open flow collection and of the block around them, the innermost
  first. -/
  pending : List (Option PendingKey)

namespace Reading

/-- The start of a text. -/
def start (chars : List Char) : Reading :=
  ⟨.ofChars chars, [], 0, [], true, [none]⟩

/-- Whether a flow collection is open. -/
def inFlow (reading : Reading) : Bool :=
  1 < reading.pending.length

/-- Add a token. -/
def push (token : Token) (reading : Reading) : Reading :=
  { reading with tokens := token :: reading.tokens }

/-- Put a token behind the first so many. -/
def insert (count : Nat) (token : Token) (reading : Reading) : Reading :=
  let later := reading.tokens.length - count
  { reading with tokens := reading.tokens.take later ++ token :: reading.tokens.drop later }

/-- The place behind white space, comments and line breaks. Outside of flow collections a key may
start after a line break. -/
def skipBlank : Nat → Reading → Reading
  | 0, reading => reading
  | fuel + 1, reading =>
    let here := reading.here.skipSpaces.skipComment
    match here.break? with
    | none => { reading with here }
    | some (_, next) =>
      skipBlank fuel
        { reading with here := next, allowsKey := reading.allowsKey || !reading.inFlow }

/-- The place of the next token. A byte order mark at the start of the text is passed. -/
def toToken (reading : Reading) : Reading :=
  let here := reading.here
  let here := if here.index == 0 && here.head? == some '\uFEFF' then here.next else here
  skipBlank (here.rest.length + 1) { reading with here }

/-- Whether a pending key can be one no longer: keys stand on one line and have a limited length. -/
def isStale (here : Cursor) (key : PendingKey) : Bool :=
  key.line != here.line || 1024 < here.index - key.index

/-- Drop the pending keys that can be keys no longer. None of them may be required. -/
def dropStale (reading : Reading) : Except Fault Reading :=
  let stale := reading.pending.filterMap id |>.filter (isStale reading.here)
  if stale.any (·.isRequired) then .error .malformed
  else .ok { reading with pending := reading.pending.map (·.filter (!isStale reading.here ·)) }

/-- Drop the innermost pending key. It may not be required. -/
def dropKey (reading : Reading) : Except Fault Reading :=
  match reading.pending with
  | some key :: rest =>
    if key.isRequired then .error .malformed else .ok { reading with pending := none :: rest }
  | _ => .ok reading

/-- Note that a key may start here. -/
def markKey (reading : Reading) : Except Fault Reading :=
  if !reading.allowsKey then .ok reading
  else do
    let reading ← reading.dropKey
    let here := reading.here
    let key : PendingKey := {
      count := reading.tokens.length
      isRequired := !reading.inFlow && reading.margin == here.column + 1
      index := here.index, line := here.line, column := here.column }
    return { reading with pending := some key :: reading.pending.tail }

/-- End all blocks whose margin is right of the given one. -/
def closeTo (margin : Nat) : List Nat → Reading → Reading
  | [], reading => reading
  | outer :: margins, reading =>
    if margin < reading.margin then
      closeTo margin margins
        { reading with margin := outer, margins, tokens := .blockEnd :: reading.tokens }
    else reading

/-- End the blocks that stand right of a margin. The indent means nothing in flow collections. -/
def close (margin : Nat) (reading : Reading) : Reading :=
  if reading.inFlow then reading else closeTo margin reading.margins reading

/-- Start a block at a column, if it is right of the innermost one. Its token goes behind the
first so many. -/
def openBlock (token : Token) (count column : Nat) (reading : Reading) : Reading :=
  if reading.margin ≤ column then
    { reading.insert count token with
      margin := column + 1, margins := reading.margin :: reading.margins }
  else reading

/-- Go on behind so many characters. -/
def pass (count : Nat) (reading : Reading) : Reading :=
  { reading with here := reading.here.skip count }

/-- A token that ends what is before it: blocks and pending keys. -/
def separate (token : Token) (count : Nat) (reading : Reading) : Except Fault Reading := do
  let reading ← (reading.close 0).dropKey
  return { (reading.push token).pass count with allowsKey := false }

/-- A directive. -/
def readDirective (reading : Reading) : Except Fault Reading := do
  let reading ← (reading.close 0).dropKey
  let (found, here) ← directive reading.here
  return { reading.push (.directive found) with here, allowsKey := false }

/-- The start of a flow collection. -/
def openFlow (token : Token) (reading : Reading) : Except Fault Reading := do
  let reading ← reading.markKey
  return { (reading.push token).pass 1 with
    pending := none :: reading.pending, allowsKey := true }

/-- The end of a flow collection. -/
def closeFlow (token : Token) (reading : Reading) : Except Fault Reading := do
  let reading ← reading.dropKey
  if !reading.inFlow then .error .malformed
  else return { (reading.push token).pass 1 with
    pending := reading.pending.tail, allowsKey := false }

/-- The comma in a flow collection. -/
def flowEntry (reading : Reading) : Except Fault Reading := do
  let reading ← reading.dropKey
  return { (reading.push .flowEntry).pass 1 with allowsKey := true }

/-- Start a block where the mark of an entry or a key stands. It may stand only where a key may
start. -/
def openAtMark (token : Token) (reading : Reading) : Except Fault Reading :=
  if reading.inFlow then .ok reading
  else if !reading.allowsKey then .error .malformed
  else .ok (reading.openBlock token reading.tokens.length reading.here.column)

/-- The mark of an entry of a block sequence. -/
def blockEntry (reading : Reading) : Except Fault Reading := do
  let reading ← (← reading.openAtMark .blockSequence).dropKey
  return { (reading.push .blockEntry).pass 1 with allowsKey := true }

/-- The mark of a key. -/
def keyMark (reading : Reading) : Except Fault Reading := do
  let reading ← (← reading.openAtMark .blockMapping).dropKey
  return { (reading.push .key).pass 1 with allowsKey := !reading.inFlow }

/-- The mark of a value. The pending key, if there is one, is a key. -/
def valueMark (reading : Reading) : Except Fault Reading :=
  match reading.pending with
  | some key :: rest =>
    let reading := { reading with pending := none :: rest }
    let reading := reading.insert key.count .key
    let reading :=
      if reading.inFlow then reading else reading.openBlock .blockMapping key.count key.column
    .ok { (reading.push .value).pass 1 with allowsKey := false }
  | _ => do
    let reading ← reading.openAtMark .blockMapping
    return { (reading.push .value).pass 1 with allowsKey := !reading.inFlow }

/-- A word: it may be a key, and no other key may start behind it on its line. -/
def word (read : Cursor → Except Fault (Token × Cursor)) (reading : Reading) :
    Except Fault Reading := do
  let reading ← reading.markKey
  let (token, here) ← read reading.here
  return { reading.push token with here, allowsKey := false }

/-- A plain scalar. A key may start behind it if a line break ended it. -/
def plainScalar (reading : Reading) : Except Fault Reading := do
  let reading ← reading.markKey
  let (text, allowsKey, here) := plainText reading.inFlow reading.margin reading.here
  return { reading.push (.scalar true text) with here, allowsKey }

/-- A block scalar. -/
def blockScalar (isFolded : Bool) (reading : Reading) : Except Fault Reading := do
  let reading ← reading.dropKey
  let (text, here) ← blockText isFolded reading.margin reading.here
  return { reading.push (.scalar false text) with here, allowsKey := true }

/-- Whether a plain scalar starts with the given characters. -/
def startsPlain (inFlow : Bool) (c : Char) (next : Option Char) : Bool :=
  let isIndicator := "-?:,[]#&*!|>\x27\"%@\x60".toList.contains c || c == '\x7b' || c == '\x7d'
  !(isIndicator || isGap c || isBreak c) ||
    (!isWordEnd next && (c == '-' || !inFlow && (c == '?' || c == ':')))

/-- The token that starts with a character. -/
def readToken (c : Char) (reading : Reading) : Except Fault Reading :=
  let here := reading.here
  let next := here.next.head?
  let isMark := here.column == 0 && here.atMarker
  let endsWord := reading.inFlow || isWordEnd next
  if c == '%' && here.column == 0 then reading.readDirective
  else if c == '-' && isMark then reading.separate .documentStart 3
  else if c == '.' && isMark then reading.separate .documentEnd 3
  else if c == '[' then reading.openFlow .flowSequence
  else if c == '\x7b' then reading.openFlow .flowMapping
  else if c == ']' then reading.closeFlow .flowSequenceEnd
  else if c == '\x7d' then reading.closeFlow .flowMappingEnd
  else if c == ',' then reading.flowEntry
  else if c == '-' && isWordEnd next then reading.blockEntry
  else if c == '?' && endsWord then reading.keyMark
  else if c == ':' && endsWord then reading.valueMark
  else if c == '*' then
    reading.word fun here => do
      let (name, last) ← anchorName here
      return (.alias name, last)
  else if c == '&' then
    reading.word fun here => do
      let (name, last) ← anchorName here
      return (.anchor name, last)
  else if c == '!' then
    reading.word fun here => do
      let (name, last) ← tagName here
      return (.tag name, last)
  else if c == '|' && !reading.inFlow then reading.blockScalar false
  else if c == '>' && !reading.inFlow then reading.blockScalar true
  else if c == '\x27' || c == '"' then
    reading.word fun here => do
      let (text, last) ← quotedText c here
      return (.scalar false text, last)
  else if startsPlain reading.inFlow c next then reading.plainScalar
  else .error .malformed

/-- Read one token, or nothing at the end of the text. -/
def step (reading : Reading) : Except Fault (Reading × Bool) := do
  let reading ← reading.toToken.dropStale
  match reading.here.head? with
  | none => return (← (reading.close 0).dropKey, true)
  | some c => return (← (reading.close (reading.here.column + 1)).readToken c, false)

end Reading

/-- The tokens of a text up to its end, or up to a fault. -/
structure Tokens where
  tokens : List Token
  fault : Option Fault
deriving Repr

namespace Tokens

/-- Read tokens to the end of a text. Each round passes at least one character. -/
def readFrom : Nat → Reading → Tokens
  | 0, reading => ⟨reading.tokens.reverse, some .malformed⟩
  | fuel + 1, reading =>
    match reading.step with
    | .error fault => ⟨reading.tokens.reverse, some fault⟩
    | .ok (last, true) => ⟨last.tokens.reverse, none⟩
    | .ok (reading, false) => readFrom fuel reading

/-- Whether a character may stand in a text. -/
def isAllowed (c : Char) : Bool :=
  c == '\t' || c == '\n' || c == '\r' || c == '\x85' || (' ' ≤ c && c ≤ '~') ||
    ('\xa0' ≤ c && c ≤ '\uFFFD') || 0x10000 ≤ c.toNat

/-- The tokens of a text. -/
def ofText (text : String) : Tokens :=
  let chars := text.toList
  if chars.all isAllowed then readFrom (chars.length + 1) (.start chars) else ⟨[], some .malformed⟩

end Tokens

end SdkFeed.Yaml
