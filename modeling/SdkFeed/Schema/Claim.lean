import SdkFeed.Schema.Edition
import SdkFeed.Xml.Namespace

/-!
What elements say about themselves. Every element may have the attributes that speak about the
schema, and one of them names the type of the element: it must be the type that the element should
have or one derived from it, and the element is judged by it then. Main definition:
`Edition.claimedForm`.
-/

namespace SdkFeed.Schema

open SdkFeed.Xml

/-- The namespace of the attributes that speak about the schema itself. -/
def instanceSpace : String :=
  "http://www.w3.org/2001/XMLSchema-instance"

/-- Whether an attribute speaks about the schema itself, so that any element may have it. -/
def isInstance (name : Name) : Bool :=
  name.space == instanceSpace &&
    ["type", "nil", "schemaLocation", "noNamespaceSchemaLocation"].contains name.label

/-- The attribute that tells an element to be without a value. -/
def nilName : Name :=
  ⟨instanceSpace, "nil"⟩

/-- The attribute that names the type of an element. -/
def typeName : Name :=
  ⟨instanceSpace, "type"⟩

/-- The problem of the attribute that tells an element to be without a value: none of the elements
can be. -/
def nilProblem (value : String) : Problem :=
  if ["true", "false", "1", "0"].contains (collapsed value) then .notNillable
  else .attributeNotOfType nilName.render value "xs:boolean"

/-- The name that a value stands for. It may be in no namespace. -/
structure Reference where
  space : Option String
  label : String
deriving DecidableEq, Repr

namespace Reference

/-- The expanded name. -/
def name (reference : Reference) : Name :=
  ⟨reference.space.getD "", reference.label⟩

/-- The name as messages show it. -/
def render (reference : Reference) : String :=
  match reference.space with
  | none => reference.label
  | some space => "\x7b" ++ space ++ "\x7d" ++ reference.label

/-- Whether a value is a name, perhaps with a prefix and with white space around it. -/
def isName (raw : String) : Bool :=
  match (Text.collapse isSpace raw.toList).span (· != ':') with
  | (label, []) => Alphabet.narrow.isPlainName label
  | (mark, _ :: label) =>
    Alphabet.narrow.isPlainName mark && Alphabet.narrow.isPlainName label

/-- The name that the value of the type attribute stands for. The white space around it counts
where it is looked up. -/
def read (scope : Scope) (raw : String) : Except Problem Reference :=
  if !isName raw then .error (.attributeNotOfType typeName.render raw "xs:QName")
  else
    let (mark, label) := splitName raw
    match scope.lookup mark with
    | some space => .ok ⟨some space, label⟩
    | none =>
      if mark.isEmpty then .ok ⟨none, label⟩ else .error (.unboundType typeName.render raw)

end Reference

namespace Edition

/-- The form that a reference to a type stands for in an element that should be of the form
`declared`. -/
def formOf (edition : Edition) (declared : Form) (reference : Reference) : Except Problem Form :=
  match edition.formNamed? reference.name with
  | some form =>
    if form.isKindOf declared then .ok form
    else .error (.unfitType typeName.render reference.render)
  | none =>
    if reference.space == some typeSpace && foreignTypes.contains reference.label then
      .error (.unfitType typeName.render reference.render)
    else .error (.unknownType typeName.render reference.render)

/-- The form that an element is of, by its type attribute if it has one, else as its parent has
it. -/
def claimedForm (edition : Edition) (declared : Form) (scope : Scope)
    (attributes : List (Name × String)) : Except Problem Form :=
  match attributes.lookup typeName with
  | none => .ok declared
  | some raw => Reference.read scope raw >>= edition.formOf declared

end Edition

end SdkFeed.Schema
