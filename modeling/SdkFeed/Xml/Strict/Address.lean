/-!
Whether a text is a reference to a resource: an address with a scheme, or one that is relative to
another. Only the form counts. Characters beyond ASCII have to be written as percent codes.
-/

namespace SdkFeed.Xml.Strict

namespace Address

/-- A character that never separates parts. -/
def isUnreserved (c : Char) : Bool :=
  c.isAlphanum || c == '-' || c == '.' || c == '_' || c == '~'

/-- A character that may separate parts inside a part. -/
def isInnerMark (c : Char) : Bool :=
  "!$&'()*+,;=".toList.contains c

/-- A character of the name of a host. -/
def isHostChar (c : Char) : Bool :=
  isUnreserved c || isInnerMark c

/-- A character of a segment of a path. -/
def isPathChar (c : Char) : Bool :=
  isHostChar c || c == ':' || c == '@'

/-- A character of a path. -/
def isPathOrSlash (c : Char) : Bool :=
  isPathChar c || c == '/'

/-- A character of a query. -/
def isQueryChar (c : Char) : Bool :=
  isPathOrSlash c || c == '?'

/-- A character of a fragment. -/
def isFragmentChar (c : Char) : Bool :=
  isQueryChar c || c == '[' || c == ']'

/-- A hexadecimal digit. -/
def isHex (c : Char) : Bool :=
  c.isDigit || ('a' ≤ c && c ≤ 'f') || ('A' ≤ c && c ≤ 'F')

/-- What is left behind the longest row of characters that satisfy `p` and percent codes. -/
def skip (p : Char → Bool) : List Char → List Char
  | '%' :: a :: b :: rest => if isHex a && isHex b then skip p rest else '%' :: a :: b :: rest
  | c :: rest => if p c then skip p rest else c :: rest
  | [] => []

/-- What is left behind a number from 0 to 255, roughly: leading zeros end it. -/
def octet? : List Char → Option (List Char)
  | a :: rest =>
    if !a.isDigit then none
    else
      let digits := rest.takeWhile Char.isDigit
      match digits with
      | [] => some rest
      | [_] => if a != '0' then some (rest.drop 1) else none
      | b :: _ =>
        if a == '1' || (a == '2' && b ≤ '5') then some (rest.drop 2) else none
  | [] => none

/-- What is left behind a number of the kind, and the given number of others behind dots. -/
def octets? : Nat → List Char → Option (List Char)
  | 0, chars => octet? chars
  | more + 1, chars =>
    match octet? chars with
    | some ('.' :: rest) => octets? more rest
    | _ => none

/-- What is left behind the name or the number of a host. -/
def host? : List Char → Option (List Char)
  | '[' :: rest =>
    match rest.dropWhile (· != ']') with
    | _ :: rest => some rest
    | [] => none
  | chars => some ((octets? 3 chars).getD (skip isHostChar chars))

/-- The greatest port. -/
def portLimit : Nat :=
  2147483647

/-- What is left behind the number of a port. -/
def port? (chars : List Char) : Option (List Char) :=
  let digits := chars.takeWhile Char.isDigit
  let value := digits.foldl (fun value c =>
    min (value * 10 + (c.toNat - '0'.toNat)) (portLimit + 1)) 0
  if digits.isEmpty || portLimit < value then none else some (chars.drop digits.length)

/-- What is left behind a host with perhaps a user before it and a port behind it. -/
def authority? (chars : List Char) : Option (List Char) := do
  let rest ← host? <| match skip (fun c => isHostChar c || c == ':') chars with
    | '@' :: rest => rest
    | _ => chars
  match rest with
  | ':' :: rest => port? rest
  | _ => some rest

/-- Whether nothing but a query and a fragment is left. -/
def endsWell : List Char → Bool
  | [] => true
  | '?' :: rest =>
    match skip isQueryChar rest with
    | [] => true
    | '#' :: rest => (skip isFragmentChar rest).isEmpty
    | _ => false
  | '#' :: rest => (skip isFragmentChar rest).isEmpty
  | _ => false

/-- What is left behind an authority and a path, or behind a path whose first segment may hold
only characters that satisfy `first`. -/
def path? (first : Char → Bool) (chars : List Char) : Option (List Char) := do
  let rest ← match chars with
    | '/' :: '/' :: rest => authority? rest
    | _ => some (skip first chars)
  match rest with
  | '/' :: _ => return skip isPathOrSlash rest
  | _ => return rest

/-- What is left behind a scheme. -/
def scheme? (chars : List Char) : Option (List Char) := do
  guard ((chars.head?.map Char.isAlpha).getD false)
  match chars.dropWhile fun c => c.isAlphanum || c == '+' || c == '-' || c == '.' with
  | ':' :: rest => return rest
  | _ => none

/-- Whether a text is an address with a scheme. -/
def isAbsolute (chars : List Char) : Bool :=
  (((scheme? chars).bind (path? isPathChar)).map endsWell).getD false

/-- Whether a text is an address without a scheme. In its first segment a colon would make one. -/
def isRelative (chars : List Char) : Bool :=
  ((path? (fun c => isPathChar c && c != ':') chars).map endsWell).getD false

/-- Whether a text is an address. -/
def isValid (chars : List Char) : Bool :=
  isAbsolute chars || isRelative chars

end Address

end SdkFeed.Xml.Strict
