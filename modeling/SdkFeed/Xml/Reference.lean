import SdkFeed.Xml.Cursor

/-!
References inside literals: a literal is read as a list of pieces, each a character that stands
there, a character given by its number, or the name of an entity.
-/

namespace SdkFeed.Xml

/-- One piece of a literal. -/
inductive Piece where
  | literal (c : Char)
  | character (c : Char)
  | entity (name : Word)
deriving DecidableEq, Repr

/-- The value of a hexadecimal digit. -/
def hexDigit? (c : Char) : Option Nat :=
  if c.isDigit then some (c.toNat - '0'.toNat)
  else if 'a' ≤ c && c ≤ 'f' then some (c.toNat - 'a'.toNat + 10)
  else if 'A' ≤ c && c ≤ 'F' then some (c.toNat - 'A'.toNat + 10)
  else none

/-- The number that digits of a base write; there must be at least one. -/
def number? (base : Nat) (digits : List Char) : Option Nat :=
  if digits.isEmpty then none
  else digits.foldlM (fun value c => do
    let digit ← hexDigit? c
    guard (digit < base)
    return value * base + digit) 0

/-- The piece that the text between an ampersand and the next semicolon stands for, when `offset`
characters stand before that text. -/
def Piece.ofReference? (alphabet : Alphabet) (offset : Nat) : List Char → Option Piece
  | '#' :: 'x' :: digits => do
    let code ← number? 16 digits
    guard (isCharacter code)
    return .character (Char.ofNat code)
  | '#' :: digits => do
    let code ← number? 10 digits
    guard (isCharacter code)
    return .character (Char.ofNat code)
  | chars =>
    if alphabet.isName chars then some (.entity ⟨String.ofList chars, offset⟩) else none

/-- Read the pieces of a literal. `pending` holds the characters of a reference that is still
open, reversed, with the number of characters before them. -/
def piecesFrom (alphabet : Alphabet) (acc : List Piece) (offset : Nat) :
    Option (List Char × Nat) → List Char → Option (List Piece)
  | none, [] => some acc.reverse
  | some _, [] => none
  | none, '&' :: rest => piecesFrom alphabet acc (offset + 1) (some ([], offset + 1)) rest
  | none, c :: rest => piecesFrom alphabet (.literal c :: acc) (offset + 1) none rest
  | some (pending, start), ';' :: rest => do
    let piece ← Piece.ofReference? alphabet start pending.reverse
    piecesFrom alphabet (piece :: acc) (offset + 1) none rest
  | some (pending, start), c :: rest =>
    piecesFrom alphabet acc (offset + 1) (some (c :: pending, start)) rest

/-- The pieces of a literal, if every reference in it is well formed. -/
def pieces? (alphabet : Alphabet) (value : Literal) : Option (List Piece) :=
  piecesFrom alphabet [] value.offset none value.chars

/-- The entities that need no declaration. -/
def predefined? (name : String) : Option Char :=
  match name with
  | "lt" => some '<'
  | "gt" => some '>'
  | "amp" => some '&'
  | "quot" => some '"'
  | "apos" => some '\x27'
  | _ => none

end SdkFeed.Xml
