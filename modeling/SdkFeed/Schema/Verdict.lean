import SdkFeed.Schema.Finding
import SdkFeed.Xml.Strict.Document

/-!
The verdict on a document: valid, not well formed, or in violation of the schema, with the first
violation found. The check breaks down at a reference to an entity in element content.
-/

namespace SdkFeed.Schema

open SdkFeed.Xml

/-- The words for a set of values. -/
def listing (choices : List String) : String :=
  ", ".intercalate (choices.map fun choice => "'" ++ choice ++ "'")

/-- The words for a problem, behind the name of the element to blame. -/
def Problem.message : Problem → String
  | undeclaredRoot => ": No matching global declaration available for the validation root."
  | unexpected => ": This element is not expected."
  | missingChild => ": Missing child element(s)."
  | textAmongElements =>
    ": Character content other than whitespace is not allowed because the content type is " ++
      "'element-only'."
  | textInEmpty => ": Character content is not allowed, because the content type is empty."
  | elementInEmpty => ": Element content is not allowed, because the content type is empty."
  | elementInValue false =>
    ": Element content is not allowed, because the type definition is simple."
  | elementInValue true =>
    ": Element content is not allowed, because the content type is a simple type definition."
  | notOfType raw type =>
    ": '" ++ raw ++ "' is not a valid value of the atomic type '" ++ type ++ "'."
  | notListed value choices =>
    ": [facet 'enumeration'] The value '" ++ value ++ "' is not an element of the set \x7b" ++
      listing choices ++ "\x7d."
  | unmatched value pattern =>
    ": [facet 'pattern'] The value '" ++ value ++ "' is not accepted by the pattern '" ++ pattern ++
      "'."
  | notAmong name value choices =>
    ", attribute '" ++ name ++ "': [facet 'enumeration'] The value '" ++ value ++
      "' is not an element of the set \x7b" ++ listing choices ++ "\x7d."
  | notFixed name value fixed =>
    ", attribute '" ++ name ++ "': The value '" ++ value ++
      "' does not match the fixed value constraint '" ++ fixed ++ "'."
  | unknownAttribute name =>
    ", attribute '" ++ name ++ "': The attribute '" ++ name ++ "' is not allowed."
  | missingAttribute name => ": The attribute '" ++ name ++ "' is required but missing."
  | attributeNotOfType name raw type =>
    ", attribute '" ++ name ++ "': '" ++ raw ++ "' is not a valid value of the atomic type '" ++
      type ++ "'."
  | notNillable => ": The element is not 'nillable'."
  | unboundType name raw =>
    ", attribute '" ++ name ++ "': The QName value '" ++ raw ++
      "' has no corresponding namespace declaration in scope."
  | unknownType name shown =>
    ", attribute '" ++ name ++ "': The QName value '" ++ shown ++
      "' of the attribute 'xsi:type' does not resolve to a type definition."
  | unfitType name shown =>
    ", attribute '" ++ name ++ "': The type definition '" ++ shown ++
      "', specified by xsi:type, is blocked or not validly derived from the type definition of " ++
      "the element declaration."

/-- The greatest number of bytes in the words for a violation. -/
def messageLimit : Nat :=
  63999

/-- A byte as a character: itself in ASCII, else its number. -/
def byteText (b : UInt8) : List Char :=
  if b < 0x80 then [Char.ofNat b.toNat] else "\\x".toList ++ Nat.toDigits 16 b.toNat

/-- Cut words that are too long. If a character is cut in two, the bytes of all characters beyond
ASCII are shown by their numbers. -/
def cut (words : String) : String :=
  if words.utf8ByteSize ≤ messageLimit then words
  else
    let bytes := words.toUTF8.toList.take messageLimit
    match Text.decodeUtf8? bytes with
    | some chars => String.ofList chars
    | none => String.ofList (bytes.flatMap byteText)

/-- The words for a violation. -/
def Violation.message (violation : Violation) : String :=
  cut ("Element '" ++ violation.name.render ++ "'" ++ violation.problem.message)

/-- What the check says of a document. -/
inductive Verdict where
  | valid
  | notWellFormed
  | invalid (violation : Violation)
deriving DecidableEq, Repr

/-- The check came upon a reference to an entity and cannot say anything. -/
structure Breakdown where
deriving DecidableEq, Repr

/-- The verdict that a list of findings makes. -/
def Verdict.ofFindings (findings : List Finding) : Except Breakdown Verdict :=
  if findings.contains .reference then .error ⟨⟩
  else match findings with
    | .violation violation :: _ => .ok (.invalid violation)
    | _ => .ok .valid

/-- The verdict on the bytes of a document. -/
def Edition.judge (edition : Edition) (bytes : List UInt8) : Except Breakdown Verdict :=
  match Strict.read? bytes with
  | some root => Verdict.ofFindings (edition.documentFindings root)
  | none => .ok .notWellFormed

/-- The answer to the question whether a document is valid. -/
structure Validation where
  isValid : Bool
  /-- The namespace of the version that the document is valid for. -/
  space : Option String := none
  error : Option String := none
  /-- There is nothing to check the document with. -/
  isUnavailable : Bool := false
  line : Option Nat := none
  column : Option Nat := none
deriving DecidableEq, Repr

namespace Validation

/-- The first line of the error for a document. -/
def heading (url : String) : String :=
  "XML verification failed for " ++ url ++ ".\n"

/-- A document that is wrong at a line. -/
def failure (url : String) (line : Nat) (message : String) : Validation where
  isValid := false
  error := some (heading url ++ "Line " ++ toString line ++ ":0, Error: " ++ message)
  line := some line
  column := some 0

/-- A document that cannot be checked. -/
def unavailable (url : String) : Validation where
  isValid := false
  error := some (heading url ++ "No suitable XML Schema Validator could be found in your Python " ++
    "environment. Please make sure lxml is installed.")
  isUnavailable := true

/-- The answer that a verdict gives. For a document that is not well formed it has the same words and
the same place, whatever the reader found. -/
def ofVerdict (edition : Edition) (url : String) : Verdict → Validation
  | .valid => { isValid := true, space := some edition.space }
  | .notWellFormed => failure url 0 "not well-formed"
  | .invalid violation => failure url violation.line violation.message

end Validation

/-- What there is to check documents with. -/
structure Validator where
  /-- Whether the means to read schemas are installed. -/
  isInstalled : Bool
deriving DecidableEq, Repr

namespace Validator

/-- The validator of the program. -/
def standard : Validator :=
  ⟨true⟩

/-- Why documents of an edition cannot be checked. -/
def obstacle? (validator : Validator) (edition : Edition) : Option String :=
  if !validator.isInstalled then some "lxml is not installed"
  else if !edition.isPublished then
    some ("schema resource " ++ edition.kind.family.schemaFile edition.version ++ " not found")
  else none

/-- The warnings that the first check of a document of an edition gives. -/
def warnings (validator : Validator) (edition : Edition) : List String :=
  ((validator.obstacle? edition).map ("No XML Schema validator available: " ++ ·)).toList

/-- Check a document. -/
def validate (validator : Validator) (edition : Edition) (url : String) (bytes : List UInt8) :
    Except Breakdown Validation :=
  if (validator.obstacle? edition).isSome then .ok (.unavailable url)
  else (edition.judge bytes).map (Validation.ofVerdict edition url)

end Validator

end SdkFeed.Schema
