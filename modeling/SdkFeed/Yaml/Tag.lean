import SdkFeed.Yaml.Scalar
import SdkFeed.Yaml.Stamp

/-!
The tags of nodes, and the tags that plain scalars have by their form alone.
-/

namespace SdkFeed.Yaml

/-- What a node is. -/
inductive Tag where
  | null
  | bool
  | int
  | float
  | text
  | binary
  | stamp
  | sequence
  | mapping
  | set
  /-- A list of pairs, whose keys may be anything and occur more than once. -/
  | pairs
  /-- The key that merges other mappings into its own. -/
  | merge
  /-- The key of the value that stands for its mapping. -/
  | value
  | unknown
deriving DecidableEq, Repr, Inhabited

namespace Tag

/-- The stem of the names of the tags that mean something. -/
def stem : String :=
  "tag:yaml.org,2002:"

/-- The tags with their names behind the stem. -/
def names : List (String × Tag) :=
  [("null", null), ("bool", bool), ("int", int), ("float", float), ("str", text),
   ("binary", binary), ("timestamp", stamp), ("seq", sequence), ("map", mapping), ("set", set),
   ("omap", pairs), ("pairs", pairs), ("merge", merge), ("value", value)]

/-- The tag of a full name. -/
def ofName (name : String) : Tag :=
  ((names.map fun (word, tag) => (stem ++ word, tag)).lookup name).getD unknown

/-- The words for truth values, in lower case. -/
def truthWords : List (String × Bool) :=
  [("yes", true), ("no", false), ("true", true), ("false", false), ("on", true), ("off", false)]

/-- Whether a text is a word in lower case, in upper case, or with a capital. -/
def isCasingOf (text word : String) : Bool :=
  text == word || text == word.toUpper || text == word.capitalize

/-- A text without its sign. -/
def unsigned : List Char → List Char
  | '-' :: rest | '+' :: rest => rest
  | chars => chars

/-- A digit or an underscore. -/
def isGrouped (c : Char) : Bool :=
  c.isDigit || c == '_'

/-- Whether a text is one or more numbers below 60 behind colons, and what follows them. -/
def sexagesimalTail : Nat → List Char → Option (List Char)
  | fuel + 1, ':' :: rest => do
    let digits := (rest.take 2).takeWhile Char.isDigit
    guard (!digits.isEmpty && (digits.length == 1 || digitsValue digits < 60))
    let behind := rest.drop digits.length
    (sexagesimalTail fuel behind) <|> some behind
  | _, _ => none

/-- Whether a text is an integer: in decimal, binary, octal, hexadecimal, or to the base of 60. -/
def isInt (chars : List Char) : Bool :=
  match unsigned chars with
  | ['0'] => true
  | '0' :: 'b' :: rest => !rest.isEmpty && rest.all ['0', '1', '_'].contains
  | '0' :: 'x' :: rest => !rest.isEmpty && rest.all fun c => (hexDigit? c).isSome || c == '_'
  | '0' :: rest => !rest.isEmpty && rest.all fun c => ('0' ≤ c && c ≤ '7') || c == '_'
  | c :: rest =>
    c.isDigit && (rest.all isGrouped ||
      sexagesimalTail rest.length (rest.dropWhile isGrouped) == some [])
  | [] => false

/-- Whether a text is empty or a power of ten with its sign. -/
def isPower : List Char → Bool
  | [] => true
  | e :: sign :: digits =>
    (e == 'e' || e == 'E') && (sign == '-' || sign == '+') && !digits.isEmpty &&
      digits.all Char.isDigit
  | _ => false

/-- Whether a text is a decimal with a point, to the base of ten or of 60, or the name of a number
that is not finite. -/
def isFloat (chars : List Char) : Bool :=
  let body := unsigned chars
  let hasSign := body.length != chars.length
  match body with
  | '.' :: rest =>
    let word := String.ofList rest
    ["inf", "Inf", "INF"].contains word || (!hasSign && (["nan", "NaN", "NAN"].contains word ||
      (rest.head?.any Char.isDigit && isPower (rest.dropWhile isGrouped))))
  | c :: rest =>
    c.isDigit && match rest.dropWhile isGrouped with
      | '.' :: fraction => isPower (fraction.dropWhile isGrouped)
      | tail =>
        match sexagesimalTail tail.length tail with
        | some ('.' :: fraction) => fraction.all isGrouped
        | _ => false
  | [] => false

/-- The tag of a plain scalar without a tag of its own. A line break at the end of a text does not
change its form, unless it is all of it. -/
def ofPlain (text : String) : Tag :=
  let chars := if text == "\n" then text.toList else dropLineEnd text.toList
  let text := String.ofList chars
  if truthWords.any fun (word, _) => isCasingOf text word then bool
  else if isFloat chars then float
  else if isInt chars then int
  else if text == "<<" then merge
  else if text == "" || text == "~" || isCasingOf text "null" then null
  else if (StampText.ofChars? chars).any (·.isPlain) then stamp
  else if text == "=" then value
  else if text == "!" || text == "&" || text == "*" then unknown
  else .text

end Tag

end SdkFeed.Yaml
