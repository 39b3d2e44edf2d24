import SdkFeed.Text.Printable

/-!
Texts as messages quote them: between quotes, with escapes for the quote, the backslash, line ends,
tabs, and all characters that cannot be shown.
-/

namespace SdkFeed.Text

/-- A hexadecimal digit in lower case. -/
def hexDigit (n : Nat) : Char :=
  if n < 10 then Char.ofNat ('0'.toNat + n) else Char.ofNat ('a'.toNat + (n - 10))

/-- A number in hexadecimal digits, with as many of them as asked. -/
def hexDigits : Nat → Nat → List Char
  | 0, _ => []
  | width + 1, n => hexDigits width (n / 16) ++ [hexDigit (n % 16)]

/-- How a character stands between the given quotes. -/
def quotedChar (quote c : Char) : List Char :=
  if c == '\\' || c == quote then ['\\', c]
  else if c == '\n' then ['\\', 'n']
  else if c == '\r' then ['\\', 'r']
  else if c == '\t' then ['\\', 't']
  else if isPrintable c then [c]
  else if c.toNat < 0x100 then '\\' :: 'x' :: hexDigits 2 c.toNat
  else if c.toNat < 0x10000 then '\\' :: 'u' :: hexDigits 4 c.toNat
  else '\\' :: 'U' :: hexDigits 8 c.toNat

/-- The quotes that fit a text: single ones, unless it holds those and no double ones. -/
def quoteFor (s : String) : Char :=
  if s.toList.contains '\x27' && !s.toList.contains '"' then '"' else '\x27'

/-- A text between quotes. -/
def quoted (s : String) : String :=
  let quote := quoteFor s
  String.ofList (quote :: s.toList.flatMap (quotedChar quote) ++ [quote])

end SdkFeed.Text
