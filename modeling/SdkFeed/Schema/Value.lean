import SdkFeed.Text.Character
import SdkFeed.Xml.Character

/-!
The values that texts and attributes of an index may have.
-/

namespace SdkFeed.Schema

open SdkFeed.Xml SdkFeed.Text

/-- What a rule of the schema says is wrong. -/
inductive Problem where
  /-- The root element is not the one of the schema. -/
  | undeclaredRoot
  /-- The element may not stand here, or not once more. -/
  | unexpected
  /-- A required child has not come. -/
  | missingChild
  /-- Text stands between the children of an element that may hold elements only. -/
  | textAmongElements
  /-- An element that must be empty holds text. -/
  | textInEmpty
  /-- An element that must be empty holds an element. -/
  | elementInEmpty
  /-- An element that must hold a value holds an element. Whether the element may also have
  attributes decides on the wording. -/
  | elementInValue (hasAttributes : Bool)
  /-- A text is no value of a type. -/
  | notOfType (raw type : String)
  | unmatched (value pattern : String)
  /-- A text is none of the values of a type. -/
  | notListed (value : String) (choices : List String)
  | notAmong (attributeName : String) (value : String) (choices : List String)
  | notFixed (attributeName : String) (value fixed : String)
  | unknownAttribute (name : String)
  | missingAttribute (name : String)
  /-- The value of an attribute is no value of a type. -/
  | attributeNotOfType (attributeName raw type : String)
  | notNillable
  /-- The prefix of the type that an element names is not in scope. -/
  | unboundType (attributeName raw : String)
  /-- There is no type of the name that an element names. -/
  | unknownType (attributeName shown : String)
  /-- The type that an element names is not one that it can have. -/
  | unfitType (attributeName shown : String)
deriving DecidableEq, Repr

/-- What becomes of the white space in a text. -/
inductive Spacing where
  | kept
  /-- Every white space is a blank. -/
  | replaced
  /-- A run of white space is one blank, and there is none at the ends. -/
  | collapsed
deriving DecidableEq, Repr

/-- Types of values that an element has only if it says so itself. -/
inductive SpecialType where
  /-- The code of a language. -/
  | language
  /-- Characters of names. -/
  | nameToken
  | name
  /-- A name without a colon. -/
  | plainName
  /-- A plain name that identifies an element. -/
  | id
  /-- A plain name that refers to an element. -/
  | idRef
  /-- The name of an unparsed entity. -/
  | entity
deriving DecidableEq, Repr

/-- The types of the values in elements. -/
inductive ValueType where
  /-- Any text. -/
  | text (spacing : Spacing)
  /-- A decimal integer above 0. -/
  | positive
  /-- A word of ASCII letters, digits and underscores. -/
  | word
  /-- Forty hexadecimal digits. -/
  | digest
  /-- One of a few words. -/
  | listed (choices : List String)
  | special (type : SpecialType)
deriving DecidableEq, Repr

/-- A text without white space at its ends and with single blanks inside. -/
def collapsed (s : String) : String :=
  String.ofList (collapse isSpace s.toList)

/-- Whether a list of characters is a decimal integer above 0, perhaps with a plus sign. -/
def isPositive (chars : List Char) : Bool :=
  let digits := match chars with
    | '+' :: rest => rest
    | _ => chars
  digits.all Char.isDigit && digits.any (· != '0')

/-- The characters of words. -/
def isWordChar (c : Char) : Bool :=
  c.isAlphanum || c == '_'

/-- Hexadecimal digits in either case. -/
def isHexDigit (c : Char) : Bool :=
  c.isDigit || ('a' ≤ c && c ≤ 'f') || ('A' ≤ c && c ≤ 'F')

/-- Whether the rest of a text is the rest of the code of a language: parts of one to eight
characters between hyphens, letters only in the first of them. `length` is that of the part so
far. -/
def isLanguageFrom (isFirst : Bool) (length : Nat) : List Char → Bool
  | [] => 1 ≤ length && length ≤ 8
  | c :: rest =>
    if c == '-' then 1 ≤ length && length ≤ 8 && isLanguageFrom false 0 rest
    else (c.isAlpha || (!isFirst && c.isDigit)) && isLanguageFrom isFirst (length + 1) rest

namespace SpecialType

/-- The name of a type. -/
def label : SpecialType → String
  | language => "language"
  | nameToken => "NMTOKEN"
  | name => "Name"
  | plainName => "NCName"
  | id => "ID"
  | idRef => "IDREF"
  | entity => "ENTITY"

/-- Whether a text without white space at its ends is a value of a type. A text in an element is
never the name of an entity. -/
def isValue (type : SpecialType) (chars : List Char) : Bool :=
  match type with
  | language => isLanguageFrom true 0 chars
  | nameToken => !chars.isEmpty && chars.all Alphabet.narrow.isNameChar
  | name => Alphabet.narrow.isName chars
  | plainName | id | idRef => Alphabet.narrow.isPlainName chars
  | entity => false

end SpecialType

namespace ValueType

/-- What is wrong with a text as a value of a type. Only digests are taken as they are; of other
values the white space at the ends does not count. -/
def problem? (type : ValueType) (raw : String) : Option Problem :=
  match type with
  | .text _ => none
  | .positive =>
    if isPositive (collapse isSpace raw.toList) then none
    else some (.notOfType raw "xs:positiveInteger")
  | .word =>
    let value := collapsed raw
    if !value.isEmpty && value.toList.all isWordChar then none
    else some (.unmatched value "[a-zA-Z0-9_]+")
  | .digest =>
    if raw.toList.length == 40 && raw.toList.all isHexDigit then none
    else some (.unmatched raw "([0-9a-fA-F])\x7b40\x7d")
  | .listed choices =>
    if choices.contains (collapsed raw) then none else some (.notListed (collapsed raw) choices)
  | .special type =>
    if type.isValue (collapse isSpace raw.toList) then none
    else some (.notOfType raw ("xs:" ++ type.label))

/-- The types that a type is derived from, the nearest first. -/
def bases : ValueType → List ValueType
  | text .kept | positive => []
  | text .replaced | digest => [text .kept]
  | text .collapsed => [text .replaced, text .kept]
  | special .plainName => [special .name, text .collapsed, text .replaced, text .kept]
  | special .id | special .idRef | special .entity =>
    [special .plainName, special .name, text .collapsed, text .replaced, text .kept]
  | word | listed _ | special _ => [text .collapsed, text .replaced, text .kept]

end ValueType

/-- What the value of an attribute may be. -/
inductive Allowed where
  | anything
  | oneOf (choices : List String)
  | exactly (value : String)
deriving DecidableEq, Repr

/-- An attribute that an element may have. -/
structure AttributeRule where
  label : String
  isRequired : Bool
  allowed : Allowed
deriving DecidableEq, Repr

end SdkFeed.Schema
