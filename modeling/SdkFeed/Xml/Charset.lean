import SdkFeed.Text.Codepage
import SdkFeed.Text.Utf8

/-!
The character sets of documents and how bytes of each of them become characters.
-/

namespace SdkFeed.Xml

/-- A set of byte values, as closed intervals. -/
abbrev ByteRange := List (Nat × Nat)

/-- The character sets a document can be written in. -/
inductive Charset where
  | utf8
  /-- Units of 16 bits. Where pairs are not checked, a leading surrogate pairs with the unit after
  it, whatever that unit is. -/
  | utf16 (bigEndian checksPairs : Bool)
  | utf32 (bigEndian : Bool)
  /-- One byte per character: ASCII and the given upper half. -/
  | page (upper : String)
  /-- ASCII, and rows of bytes of the given forms. The characters of such rows are not told
  apart. -/
  | rows (forms : List (List ByteRange))
deriving DecidableEq, Repr

namespace Charset

/-- The set of the first 128 characters. -/
def ascii : Charset :=
  .page ""

/-- The set of the first 256 characters. -/
def latin1 : Charset :=
  .page Text.latin1Page

/-- The page of a name; a name without one leaves ASCII. -/
def ofPage (name : String) : Charset :=
  .page ((Text.codepages.lookup name).getD "")

/-- Whether characters take more than one byte each, whatever they are. -/
def isWide : Charset → Bool
  | utf16 .. | utf32 _ => true
  | _ => false

/-- The columns that a byte order mark takes. It is one character, but where each byte is a character
its three bytes are three. -/
def markWidth : Charset → Nat
  | utf8 | utf16 .. | utf32 _ => 1
  | page _ | rows _ => 3

/-- The 16-bit units of a byte sequence; a byte left over belongs to no unit. -/
def units (bigEndian : Bool) (acc : List Nat) : List UInt8 → Option (List Nat)
  | [] => some acc.reverse
  | [_] => none
  | a :: b :: rest =>
    let unit := if bigEndian then a.toNat * 256 + b.toNat else b.toNat * 256 + a.toNat
    units bigEndian (unit :: acc) rest

/-- The characters of 16-bit units. A trailing surrogate alone is refused. -/
def decodeUnits (checksPairs : Bool) (acc : List Char) : List Nat → Option (List Char)
  | [] => some acc.reverse
  | a :: rest =>
    if a < 0xD800 || 0xE000 ≤ a then decodeUnits checksPairs (Char.ofNat a :: acc) rest
    else if 0xDC00 ≤ a then none
    else match rest with
      | [] => none
      | b :: rest =>
        if checksPairs && !(0xDC00 ≤ b && b < 0xE000) then none
        else
          let c := Char.ofNat (0x10000 + (a - 0xD800) * 1024 + b % 1024)
          decodeUnits checksPairs (c :: acc) rest

/-- The characters of 32-bit units. A unit that is the code of no character is refused. -/
def decodeWords (bigEndian : Bool) (acc : List Char) : List UInt8 → Option (List Char)
  | [] => some acc.reverse
  | a :: b :: c :: d :: rest =>
    let bytes := if bigEndian then [a, b, c, d] else [d, c, b, a]
    let code := bytes.foldl (fun code b => code * 256 + b.toNat) 0
    if code.isValidChar then decodeWords bigEndian (Char.ofNat code :: acc) rest else none
  | _ => none

/-- Whether a byte is in a set. -/
def holds (range : ByteRange) (b : UInt8) : Bool :=
  range.any fun (low, high) => low ≤ b.toNat && b.toNat ≤ high

/-- What is left of the forms that a byte can continue. -/
def continued (forms : List (List ByteRange)) (b : UInt8) : List (List ByteRange) :=
  forms.filterMap fun
    | range :: rest => if holds range b then some rest else none
    | [] => none

/-- Decode rows of bytes. `pending` holds what is left of the forms of a row that has begun. -/
def decodeRows (forms : List (List ByteRange)) (acc : List Char) :
    Option (List (List ByteRange)) → List UInt8 → Option (List Char)
  | none, [] => some acc.reverse
  | some _, [] => none
  | pending, b :: rest =>
    if pending.isNone && b < 0x80 then decodeRows forms (Char.ofNat b.toNat :: acc) none rest
    else
      let left := continued (pending.getD forms) b
      if left.isEmpty then none
      else if left.contains [] then decodeRows forms (Text.anyLetter :: acc) none rest
      else decodeRows forms acc (some left) rest

/-- The characters that bytes of a character set stand for, if they are well formed. -/
def decode (charset : Charset) (bytes : List UInt8) : Option (List Char) :=
  match charset with
  | .utf8 => Text.decodeUtf8? bytes
  | .utf16 bigEndian checksPairs => do decodeUnits checksPairs [] (← units bigEndian [] bytes)
  | .utf32 bigEndian => decodeWords bigEndian [] bytes
  | .page upper => Text.decodePage? upper bytes
  | .rows forms => decodeRows forms [] none bytes

end Charset

end SdkFeed.Xml
