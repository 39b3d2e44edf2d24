import SdkFeed.Xml.Declaration
import SdkFeed.Xml.Strict.Label

/-!
The decoding of a document for the strict reader. Where the first bytes show how characters are
written, they have the last word; only otherwise is a declared encoding believed.
-/

namespace SdkFeed.Xml.Strict

/-- The character set that the first bytes of a document show, and the bytes behind the mark that
shows it, if that is all the mark does. -/
def shownCharset? : List UInt8 → Option (Charset × List UInt8)
  | 0xFF :: 0xFE :: 0 :: 0 :: rest => some (.utf32 false, rest)
  | 0 :: 0 :: 0xFE :: 0xFF :: rest => some (.utf32 true, rest)
  | 0xFF :: 0xFE :: rest => some (.utf16 false true, rest)
  | 0xFE :: 0xFF :: rest => some (.utf16 true true, rest)
  | 0xEF :: 0xBB :: 0xBF :: rest => some (.utf8, rest)
  | bytes =>
    match bytes.take 4 with
    | [0x3C, 0, 0, 0] => some (.utf32 false, bytes)
    | [0, 0, 0, 0x3C] => some (.utf32 true, bytes)
    | [0x3C, 0, 0x3F, 0] => some (.utf16 false true, bytes)
    | [0, 0x3C, 0, 0x3F] => some (.utf16 true true, bytes)
    | _ => none

/-- The character set that the declaration of a document names. -/
def declaredCharset? (bytes : List UInt8) : Option Charset := do
  let (declaration, _) ← Declaration.ofStart? (Text.opening .utf8 bytes)
  match declaration.encoding with
  | none => return .utf8
  | some name => Label.charset? name

/-- Decode a document. -/
def textOf? (bytes : List UInt8) : Option Text := do
  let (charset, bytes) ← match shownCharset? bytes with
    | some shown => some shown
    | none => (declaredCharset? bytes).map fun charset => (charset, bytes)
  let chars ← charset.decode bytes
  let (declaration, start) ← Declaration.ofStart? (Text.joinLineEnds [] chars)
  Text.ofChars? declaration start 0 chars

end SdkFeed.Xml.Strict
