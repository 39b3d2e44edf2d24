import SdkFeed.Console.Markup

/-!
Tables: a title over a header and rows, with a frame of box characters. Every column is as wide as
the longest line in it.
-/

namespace SdkFeed.Console

/-- A column of a table. -/
structure Column where
  title : String
  /-- The cells stand at the right. -/
  isRight : Bool := false
deriving DecidableEq, Repr

/-- A table. The cells are markup. -/
structure Table where
  title : String
  columns : List Column
  rows : List (List String)
deriving DecidableEq, Repr

/-- Whether a character ends a line where the width of a cell is measured. -/
def endsLine (c : Char) : Bool :=
  [0xA, 0xB, 0xC, 0xD, 0x1C, 0x1D, 0x1E, 0x85, 0x2028, 0x2029].contains c.toNat

/-- The cells of the longest line. `used` counts those of the line at the start. -/
def longestLine (used : Nat) : List Char → Nat
  | [] => used
  | c :: rest =>
    if endsLine c then max used (longestLine 0 rest) else longestLine (used + Text.charWidth c) rest

/-- The text of a cell. -/
def cellText (markup : String) : String :=
  (plain? markup).getD markup

/-- Blanks. -/
def blanks (count : Nat) : List Char :=
  List.replicate count ' '

/-- Fill a line up with blanks. -/
def Column.align (column : Column) (width : Nat) (line : List Char) : List Char :=
  if column.isRight then
    let line := Text.dropEnd Text.isBlank line
    blanks (width - Text.width line) ++ line
  else line ++ blanks (width - Text.width line)

/-- The lines of a cell, all of one width. -/
def Column.lines (column : Column) (width : Nat) (text : String) : List (List Char) :=
  (wrap width text).map (column.align width)

/-- The characters of a frame that stand at the left, between columns and at the right, and the one
that runs between those. -/
structure Rule where
  left : Char
  middle : Char
  right : Char
  line : Char

/-- A line of a table with the given cells. -/
def Rule.row (rule : Rule) (cells : List (List Char)) : List Char :=
  rule.left :: (List.intercalate [rule.middle] cells ++ [rule.right])

/-- A line of a table between rows. -/
def Rule.across (rule : Rule) (widths : List Nat) : List Char :=
  rule.row (widths.map fun width => List.replicate (width + 2) rule.line)

/-- The lines of a row, with a blank on each side of a cell. A cell with fewer lines than others is
filled up. -/
def Rule.cells (rule : Rule) (columns : List Column) (widths : List Nat) (texts : List String) :
    List (List Char) :=
  let cells := (columns.zip (widths.zip texts)).map fun (column, width, text) =>
    (width, column.lines width text)
  let height := (cells.map fun (_, lines) => lines.length).foldl max 0
  (List.range height).map fun i => rule.row (cells.map fun (width, lines) =>
    ' ' :: ((lines[i]?).getD (blanks width) ++ [' ']))

namespace Table

/-- The texts of the header and the rows. -/
def texts (table : Table) : List (List String) :=
  table.columns.map (·.title) :: table.rows.map (·.map cellText)

/-- The widths of the columns. -/
def widths (table : Table) : List Nat :=
  (List.range table.columns.length).map fun i =>
    (table.texts.map fun row => longestLine 0 ((row[i]?).getD "").toList).foldl max 0

/-- The title in the middle over the table. -/
def heading (table : Table) (width : Nat) : List Char :=
  let title := table.title.toList
  let left := (width - Text.width title) / 2
  blanks left ++ title ++ blanks (width - Text.width title - left)

/-- The lines of a table. -/
def lines (table : Table) : List (List Char) :=
  let widths := table.widths
  let top := (⟨'┏', '┳', '┓', '━'⟩ : Rule).across widths
  let header := (⟨'┃', '┃', '┃', ' '⟩ : Rule).cells table.columns widths
    (table.columns.map (·.title))
  let rows := table.rows.flatMap fun row =>
    (⟨'│', '│', '│', ' '⟩ : Rule).cells table.columns widths (row.map cellText)
  table.heading (Text.width top) :: top :: header ++
    [(⟨'┡', '╇', '┩', '━'⟩ : Rule).across widths] ++ rows ++
    [(⟨'└', '┴', '┘', '─'⟩ : Rule).across widths]

/-- The text that is printed for a table. -/
def print (table : Table) : String :=
  String.join (table.lines.map fun line => String.ofList line ++ "\n")

end Table

end SdkFeed.Console
