/-!
Classes of characters. A class is a sorted list of closed intervals of code points; the tables of the
library are values of this type. Here are the blanks, which texts are trimmed and collapsed by, and the
decimal digits of every script.
-/

namespace SdkFeed.Text

/-- A set of code points, written as closed intervals in ascending order. -/
abbrev Ranges := List (Nat × Nat)

/-- Membership. The intervals ascend, so the search stops at the first one that begins above
the code point. -/
def Ranges.mem (table : Ranges) (code : Nat) : Bool :=
  match table with
  | [] => false
  | (low, high) :: rest =>
    if code < low then false else if code ≤ high then true else Ranges.mem rest code

/-- The distance of a code point from the start of the interval that holds it. -/
def Ranges.offset? (table : Ranges) (code : Nat) : Option Nat :=
  match table with
  | [] => none
  | (low, high) :: rest =>
    if code < low then none else if code ≤ high then some (code - low) else Ranges.offset? rest code

/-- White space of any script: the white space of Unicode and the four information separators.
Characters of no width are not blank. -/
def blanks : Ranges :=
  [(0x9, 0xD), (0x1C, 0x20), (0x85, 0x85), (0xA0, 0xA0), (0x1680, 0x1680), (0x2000, 0x200A),
   (0x2028, 0x2029), (0x202F, 0x202F), (0x205F, 0x205F), (0x3000, 0x3000)]

/-- Whether a character is blank. -/
def isBlank (c : Char) : Bool :=
  blanks.mem c.toNat

/-- Drop the characters of a class from the end. -/
def dropEnd (p : Char → Bool) (chars : List Char) : List Char :=
  (chars.reverse.dropWhile p).reverse

/-- A list of characters without the blanks at both ends. -/
def trimChars (chars : List Char) : List Char :=
  dropEnd isBlank (chars.dropWhile isBlank)

/-- A text without the blanks at both ends. -/
def trim (s : String) : String :=
  String.ofList (trimChars s.toList)

/-- Collapse what is ahead. `acc` is the result so far, reversed; `pending` tells that a blank
stands between it and the next character. -/
def collapseFrom (isBlank : Char → Bool) (acc : List Char) (pending : Bool) :
    List Char → List Char
  | [] => acc.reverse
  | c :: rest =>
    if isBlank c then collapseFrom isBlank acc true rest
    else if pending && !acc.isEmpty then collapseFrom isBlank (c :: ' ' :: acc) false rest
    else collapseFrom isBlank (c :: acc) false rest

/-- The collapsed form of a text. -/
def collapse (isBlank : Char → Bool) (chars : List Char) : List Char :=
  collapseFrom isBlank [] false chars

/-- The decimal digits of Unicode 14. -/
def digits : Ranges :=
  [(0x30, 0x39), (0x660, 0x669), (0x6F0, 0x6F9), (0x7C0, 0x7C9), (0x966, 0x96F), (0x9E6, 0x9EF),
   (0xA66, 0xA6F), (0xAE6, 0xAEF), (0xB66, 0xB6F), (0xBE6, 0xBEF), (0xC66, 0xC6F), (0xCE6, 0xCEF),
   (0xD66, 0xD6F), (0xDE6, 0xDEF), (0xE50, 0xE59), (0xED0, 0xED9), (0xF20, 0xF29),
   (0x1040, 0x1049), (0x1090, 0x1099), (0x17E0, 0x17E9), (0x1810, 0x1819), (0x1946, 0x194F),
   (0x19D0, 0x19D9), (0x1A80, 0x1A89), (0x1A90, 0x1A99), (0x1B50, 0x1B59), (0x1BB0, 0x1BB9),
   (0x1C40, 0x1C49), (0x1C50, 0x1C59), (0xA620, 0xA629), (0xA8D0, 0xA8D9), (0xA900, 0xA909),
   (0xA9D0, 0xA9D9), (0xA9F0, 0xA9F9), (0xAA50, 0xAA59), (0xABF0, 0xABF9), (0xFF10, 0xFF19),
   (0x104A0, 0x104A9), (0x10D30, 0x10D39), (0x11066, 0x1106F), (0x110F0, 0x110F9),
   (0x11136, 0x1113F), (0x111D0, 0x111D9), (0x112F0, 0x112F9), (0x11450, 0x11459),
   (0x114D0, 0x114D9), (0x11650, 0x11659), (0x116C0, 0x116C9), (0x11730, 0x11739),
   (0x118E0, 0x118E9), (0x11950, 0x11959), (0x11C50, 0x11C59), (0x11D50, 0x11D59),
   (0x11DA0, 0x11DA9), (0x16A60, 0x16A69), (0x16AC0, 0x16AC9), (0x16B50, 0x16B59),
   (0x1D7CE, 0x1D7FF), (0x1E140, 0x1E149), (0x1E2F0, 0x1E2F9), (0x1E950, 0x1E959),
   (0x1FBF0, 0x1FBF9)]

/-- The value of a decimal digit. Every interval of the table is a whole number of rows from zero
to nine, so the distance from its start tells the value. -/
def digit? (c : Char) : Option Nat :=
  (digits.offset? c.toNat).map (· % 10)

end SdkFeed.Text
