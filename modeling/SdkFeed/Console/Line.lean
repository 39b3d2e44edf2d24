import SdkFeed.Text.Character
import SdkFeed.Text.Width

/-!
Lines on a console: tabs become blanks, and a line that is too long is broken between words, or
within a word that is too long itself.
-/

namespace SdkFeed.Console

/-- The cells from one tab stop to the next. -/
def tabSize : Nat :=
  8

/-- Blanks in place of tabs. `column` is the cell that comes next. -/
def expandTabs (column : Nat) : List Char → List Char
  | [] => []
  | c :: rest =>
    if c == '\t' then
      let count := tabSize - column % tabSize
      List.replicate count ' ' ++ expandTabs (column + count) rest
    else c :: expandTabs (column + Text.charWidth c) rest

/-- The lines of a text. -/
def splitLines (acc : List Char) : List Char → List (List Char)
  | [] => [acc.reverse]
  | c :: rest => if c == '\n' then acc.reverse :: splitLines [] rest else splitLines (c :: acc) rest

/-- Add a character to a text whose words are apart: blanks belong to the word before them, those at
the start to the first word. -/
def addToWords (words : List (List Char)) (c : Char) : List (List Char) :=
  match words with
  | [] => [[c]]
  | word :: others =>
    let isNew := !Text.isBlank c && word.head?.any Text.isBlank && word.any (!Text.isBlank ·)
    if isNew then [c] :: words else (c :: word) :: others

/-- The words of a line, with the blanks around them. A line of blanks is one word. -/
def words (line : List Char) : List (List Char) :=
  ((line.foldl addToWords []).map List.reverse).reverse

/-- Cut a word into pieces that fit. -/
def chop (width : Nat) (used : Nat) (acc : List Char) : List Char → List (List Char)
  | [] => [acc.reverse]
  | c :: rest =>
    let size := Text.charWidth c
    if width < used + size then acc.reverse :: chop width size [c] rest
    else chop width (used + size) (c :: acc) rest

/-- Lines that are complete, the line that is being filled, and its cells. -/
structure Layout where
  finished : List (List Char)
  current : List Char
  used : Nat

namespace Layout

/-- Begin a new line with a piece. -/
def begin (layout : Layout) (piece : List Char) : Layout where
  finished :=
    if layout.current.isEmpty then layout.finished else layout.finished ++ [layout.current]
  current := piece
  used := Text.width piece

/-- Add a word, on a line of its own if it does not fit. The blanks behind a word may stand over. -/
def add (width : Nat) (layout : Layout) (word : List Char) : Layout :=
  let size := Text.width (Text.dropEnd Text.isBlank word)
  if layout.used + size ≤ width then
    { layout with current := layout.current ++ word, used := layout.used + Text.width word }
  else if width < size then (chop width 0 [] word).foldl begin layout
  else layout.begin word

end Layout

/-- Drop the blanks at the end of a line that stand over. -/
def dropOverhang (width : Nat) (line : List Char) : List Char :=
  let blanks := line.length - (Text.dropEnd Text.isBlank line).length
  line.take (line.length - min blanks (line.length - width))

/-- Break a line. -/
def breakLine (width : Nat) (line : List Char) : List (List Char) :=
  let layout := (words line).foldl (Layout.add width) ⟨[], [], 0⟩
  (layout.finished ++ [layout.current]).map (dropOverhang width)

/-- The lines in which a text is shown. -/
def wrap (width : Nat) (text : String) : List (List Char) :=
  (splitLines [] text.toList).flatMap fun line => breakLine width (expandTabs 0 line)

end SdkFeed.Console
