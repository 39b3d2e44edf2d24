import SdkFeed.Text.Lower
import SdkFeed.Yaml.Tag
import SdkFeed.Yaml.Value

/-!
The values of scalars: numbers, truth values, time stamps and binary data, worked out from their
texts. Main definition: `Value.ofScalar`.
-/

namespace SdkFeed.Yaml.Value

/-- The greatest number of characters of a text that is shown to be no integer. -/
def shownLength : Nat :=
  200

/-- An integer in digits to a base. -/
def integer (base : Nat) (chars : List Char) : Except Fault Int :=
  match Text.integerTo base chars with
  | .ok n => .ok n
  | .error (.tooManyDigits count) => .error (.outOfRange (Text.tooManyDigits count))
  | .error .notDigits =>
    let shown := (Text.quoted (String.ofList chars)).toList.take shownLength
    .error (.outOfRange ("invalid literal for int() with base " ++ toString base ++ ": " ++
      String.ofList shown))

/-- The parts of a text between colons. -/
def splitColons (acc : List Char) : List Char → List (List Char)
  | [] => [acc.reverse]
  | ':' :: rest => acc.reverse :: splitColons [] rest
  | c :: rest => splitColons (c :: acc) rest

/-- A text without underscores, split into its sign and the rest. A text without any characters
has no first one to look at. -/
def signAndBody (chars : List Char) : Except Fault (Bool × List Char) :=
  match chars.filter (· != '_') with
  | '-' :: rest => .ok (true, rest)
  | '+' :: rest => .ok (false, rest)
  | [] => .error .emptyNumber
  | chars => .ok (false, chars)

/-- The integer that a scalar stands for. -/
def ofInt (content : String) : Except Fault Value := do
  let (isNegative, body) ← signAndBody content.toList
  let magnitude ← match body with
    | [] => .error .emptyNumber
    | ['0'] => pure 0
    | '0' :: 'b' :: digits => integer 2 digits
    | '0' :: 'x' :: digits => integer 16 digits
    | '0' :: _ => integer 8 body
    | _ =>
      if body.contains ':' then do
        let parts ← (splitColons [] body).mapM (integer 10)
        pure (parts.foldl (60 * · + ·) 0)
      else integer 10 body
  return int (if isNegative then -magnitude else magnitude)

/-- A number from a text. -/
def double? (chars : List Char) : Except Fault Number.Double :=
  match Number.Double.ofText? (Text.trimNumber chars) with
  | some x => .ok x
  | none => .error (.outOfRange
      ("could not convert string to float: " ++ Text.quoted (String.ofList chars)))

/-- The sum of numbers times the powers of 60, the last number first. -/
def sexagesimal (sum : Number.Double) (base : Nat) :
    List Number.Double → Except Fault Number.Double
  | [] => .ok sum
  | digit :: rest =>
    match Number.Double.ofRatio false base 1 with
    | .infinite _ => .error .tooLarge
    | factor => sexagesimal (sum.add (digit.mul factor)) (base * 60) rest

/-- A number that was worked out for a node. -/
def ofDouble (node : Nat) : Number.Double → Value
  | .undefined => undefined (some node)
  | x => double x

/-- The number that the scalar of a node stands for. -/
def ofFloat (node : Nat) (content : String) : Except Fault Value := do
  let (isNegative, body) ← signAndBody (Text.lower (content.toList.filter (· != '_')))
  let signed (x : Number.Double) : Value := ofDouble node (if isNegative then x.neg else x)
  if body == ".inf".toList then return signed (.infinite false)
  else if body == ".nan".toList then return undefined none
  else if body.contains ':' then
    let parts ← (splitColons [] body).mapM double?
    return signed (← sexagesimal (.zero false) 1 parts.reverse)
  else return signed (← double? body)

/-- The six bits that a character stands for in binary data. -/
def sixBits? (c : Char) : Option Nat :=
  if 'A' ≤ c ∧ c ≤ 'Z' then some (c.toNat - 'A'.toNat)
  else if 'a' ≤ c ∧ c ≤ 'z' then some (c.toNat - 'a'.toNat + 26)
  else if c.isDigit then some (c.toNat - '0'.toNat + 52)
  else if c == '+' then some 62
  else if c == '/' then some 63
  else none

/-- Binary data written four characters to three bytes. Padding completes the last four; other
characters are passed over. `held` is what the characters of the current four stand for. -/
def binaryFrom (held : List Nat) (pads : Nat) : List Char → Option (List UInt8)
  | [] => if held.isEmpty then some [] else none
  | '=' :: rest =>
    match held with
    | [a, b] =>
      if pads == 1 then some [(a * 4 + b / 16).toUInt8] else binaryFrom held (pads + 1) rest
    | [a, b, c] => some [(a * 4 + b / 16).toUInt8, (b % 16 * 16 + c / 4).toUInt8]
    | _ => binaryFrom held pads rest
  | char :: rest =>
    match sixBits? char, held with
    | none, _ => binaryFrom held pads rest
    | some d, [a, b, c] =>
      (binaryFrom [] 0 rest).map fun bytes =>
        (a * 4 + b / 16).toUInt8 :: (b % 16 * 16 + c / 4).toUInt8 ::
          (c % 4 * 64 + d).toUInt8 :: bytes
    | some d, _ => binaryFrom (held ++ [d]) 0 rest

/-- The bytes that a scalar stands for. -/
def ofBinary (text : String) : Except Fault Value :=
  if text.toList.any (0x80 ≤ ·.toNat) then .error .malformed
  else match binaryFrom [] 0 text.toList with
    | some bytes => .ok (binary bytes)
    | none => .error .malformed

/-- The value of the scalar of a node. -/
def ofScalar (node : Nat) (tag : Tag) (content : String) : Except Fault Value :=
  match tag with
  | .null => .ok null
  | .bool =>
    match Tag.truthWords.lookup (String.ofList (Text.lower content.toList)) with
    | some b => .ok (bool b)
    | none => .error .unknownTruth
  | .int => ofInt content
  | .float => ofFloat node content
  | .text => .ok (text content)
  | .binary => ofBinary content
  | .stamp =>
    match StampText.ofChars? content.toList with
    | some written => return stamp (← written.stamp)
    | none => .error .notAStamp
  | _ => .error .malformed

end SdkFeed.Yaml.Value
