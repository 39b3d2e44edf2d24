/-!
A place in a YAML document. Columns matter in YAML, so a place counts them, and lines, besides the
characters passed so far. A walk over a run of characters never makes the rest longer, and passing
a line break makes it shorter; loops over lines end for this reason.
-/

namespace SdkFeed.Yaml

/-- Why a document has no value. -/
inductive Fault where
  /-- The text breaks the rules of YAML, or uses a tag or an anchor that means nothing. -/
  | malformed
  /-- A scalar has the form of its type and no value in it. -/
  | outOfRange (message : String)
  /-- A number is too large to be handled. -/
  | tooLarge
  /-- A scalar that is tagged as a number is empty. -/
  | emptyNumber
  /-- A scalar that is tagged as a truth value is none. -/
  | unknownTruth
  /-- A scalar that is tagged as a time stamp is none. -/
  | notAStamp
  /-- A mapping is tagged as a time stamp. -/
  | mappingAsStamp
  /-- Nodes are nested too deep, or a mapping stands for itself without end. -/
  | endless
deriving DecidableEq, Repr

/-- Line breaks. Carriage returns do not occur: texts are read with line feeds in their place. -/
def isBreak (c : Char) : Bool :=
  c == '\n' || c == '\x85' || c == '\u2028' || c == '\u2029'

/-- Spaces and tabs. -/
def isGap (c : Char) : Bool :=
  c == ' ' || c == '\t'

/-- Whether a word ends before what follows: a space, a tab, a line break, or the end. -/
def isWordEnd : Option Char → Bool
  | none => true
  | some c => isGap c || isBreak c

/-- Whether a line ends, up to spaces, before what follows. A tab is no space here. -/
def isPartEnd : Option Char → Bool
  | none => true
  | some c => c == ' ' || isBreak c

/-- Whether nothing more is on the line. -/
def isLineEnd : Option Char → Bool
  | none => true
  | some c => isBreak c

/-- A place: the characters ahead, how many have been passed, and the line and the column. -/
structure Cursor where
  rest : List Char
  index : Nat
  line : Nat
  column : Nat
deriving Repr

namespace Cursor

/-- The start of a text. -/
def ofChars (chars : List Char) : Cursor :=
  ⟨chars, 0, 0, 0⟩

/-- The character that stands here. -/
def head? (here : Cursor) : Option Char :=
  here.rest.head?

/-- The place behind one character. A byte order mark takes no column. -/
def next (here : Cursor) : Cursor :=
  match here.rest with
  | [] => here
  | c :: rest =>
    if isBreak c then ⟨rest, here.index + 1, here.line + 1, 0⟩
    else ⟨rest, here.index + 1, here.line, if c == '\uFEFF' then here.column else here.column + 1⟩

/-- The place behind so many characters. -/
def skip : Nat → Cursor → Cursor
  | 0, here => here
  | n + 1, here => skip n here.next

/-- The longest run of characters of a class, and the place behind it. -/
def span (p : Char → Bool) (here : Cursor) : List Char × Cursor :=
  let chars := here.rest.takeWhile p
  (chars, here.skip chars.length)

/-- The place behind any spaces. -/
def skipSpaces (here : Cursor) : Cursor :=
  (here.span (· == ' ')).2

/-- The place behind any spaces that stand left of a column. -/
def skipIndent (column : Nat) (here : Cursor) : Cursor :=
  here.skip (min (column - here.column) (here.rest.takeWhile (· == ' ')).length)

/-- The line break that stands here, and the place behind it. The two breaks of Unicode for lines
and paragraphs stand for themselves, the others for a line feed. -/
def break? (here : Cursor) : Option (Char × Cursor) :=
  match here.rest with
  | [] => none
  | c :: _ =>
    if isBreak c then some (if c == '\u2028' || c == '\u2029' then c else '\n', here.next) else none

/-- The place behind a comment, if one stands here. -/
def skipComment (here : Cursor) : Cursor :=
  if here.head? == some '#' then (here.span (!isBreak ·)).2 else here

/-- The place behind the end of a line on which nothing is left but spaces and a comment. -/
def endLine (here : Cursor) : Except Fault Cursor :=
  let here := here.skipSpaces.skipComment
  if isLineEnd here.head? then .ok here.next else .error .malformed

/-- Whether a mark between documents stands here. -/
def atMarker (here : Cursor) : Bool :=
  match here.rest with
  | '-' :: '-' :: '-' :: rest | '.' :: '.' :: '.' :: rest => isWordEnd rest.head?
  | _ => false

theorem rest_next (here : Cursor) : here.next.rest = here.rest.tail := by
  unfold next
  split
  · simp_all
  · split <;> simp_all

theorem rest_skip (n : Nat) (here : Cursor) : (here.skip n).rest = here.rest.drop n := by
  induction n generalizing here with
  | zero => rfl
  | succ n ih => simp [skip, ih, rest_next]

theorem length_skip_le (n : Nat) (here : Cursor) :
    (here.skip n).rest.length ≤ here.rest.length := by
  simp [rest_skip]

theorem length_span_le (p : Char → Bool) (here : Cursor) :
    (here.span p).2.rest.length ≤ here.rest.length :=
  length_skip_le _ _

theorem length_break_lt {here next : Cursor} {c : Char} (h : here.break? = some (c, next)) :
    next.rest.length < here.rest.length := by
  unfold break? at h
  split at h
  · cases h
  · split at h
    · simp only [Option.some.injEq, Prod.mk.injEq] at h
      obtain ⟨-, rfl⟩ := h
      simp_all [rest_next]
    · cases h

end Cursor

end SdkFeed.Yaml
