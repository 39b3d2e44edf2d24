import SdkFeed.Package.Basic
import SdkFeed.Feed.Kind
import SdkFeed.Schema.Value
import SdkFeed.Xml.Element

/-!
The published versions of both families and what their elements may hold. Every element has one
of a few forms; `Edition.content` says what an element of a form holds in a given version. An
element may name the type that it has, so most forms have a name: `Edition.formNamed?` tells the
form of a name.
-/

namespace SdkFeed.Schema

/-- The forms of elements. -/
inductive Form where
  | index
  | package (kind : Package.Kind)
  | license
  | licenseRef
  /-- An element that says something by being there. -/
  | flag
  | libraries
  | library
  | archives
  | archive
  | checksum
  | value (type : ValueType)
deriving DecidableEq, Repr

namespace Form

/-- Any text. -/
def lines : Form :=
  .value (.text .kept)

/-- A text on one line. -/
def line : Form :=
  .value (.text .replaced)

/-- A text on one line, without blanks at its ends. -/
def token : Form :=
  .value (.text .collapsed)

end Form

/-- A child that an element may have once. -/
structure Field where
  label : String
  form : Form
  isRequired : Bool
deriving DecidableEq, Repr

/-- What an element holds. -/
inductive Content where
  | nothing
  | value (type : ValueType)
  /-- Each field at most once, in any order. -/
  | fields (fields : List Field)
  /-- Any number of elements of the given labels, in any order. -/
  | items (items : List (String × Form)) (needsOne : Bool)
deriving DecidableEq, Repr

/-- A version of a family. -/
structure Edition where
  kind : Feed.Kind
  version : Int
deriving DecidableEq, Repr

namespace Edition

/-- The namespace of an edition. -/
def space (edition : Edition) : String :=
  edition.kind.family.space edition.version

/-- Whether an edition has a schema. -/
def isPublished (edition : Edition) : Bool :=
  edition.kind.family.supports edition.version

/-- The kinds of packages that an edition knows. -/
def packageKinds (edition : Edition) : List Package.Kind :=
  match edition.kind with
  | .addon => [.addon, .extra]
  | .repository =>
    [.platform, .addon, .doc, .tool, .extra] ++ (if 2 ≤ edition.version then [.sample] else []) ++
      (if 3 ≤ edition.version then [.platformTool] else [])

end Edition

namespace Field

/-- A field that must be there. -/
def required (label : String) (form : Form) : Field :=
  ⟨label, form, true⟩

/-- A field that may be absent. -/
def optional (label : String) (form : Form) : Field :=
  ⟨label, form, false⟩

/-- The fields that all packages have. -/
def common : List Field :=
  [required "revision" (.value .positive), required "archives" .archives,
    optional "uses-license" .licenseRef, optional "description" .lines,
    optional "desc-url" .token, optional "release-note" .lines,
    optional "release-url" .token, optional "obsolete" .flag]

/-- The level of the programming interface. -/
def level : Field :=
  required "api-level" (.value .positive)

/-- The code name of a level. -/
def codename : Field :=
  optional "codename" .token

/-- The least revision of the tools that a package works with. -/
def minTools : Field :=
  optional "min-tools-rev" (.value .positive)

end Field

namespace Edition

/-- The field for code names, which came with the second version of both families. -/
def codenames (edition : Edition) : List Field :=
  if 2 ≤ edition.version then [.codename] else []

/-- The fields of a package beside those that all packages have. -/
def ownFields (edition : Edition) : Package.Kind → List Field
  | .platform =>
    [.required "version" .token, .level, .minTools] ++ edition.codenames
  | .addon =>
    [.required "name" .line, .required "vendor" .line, .level,
      .optional "libs" .libraries] ++ edition.codenames
  | .sample => [.level, .minTools, .codename]
  | .doc => .level :: edition.codenames
  | .tool =>
    if 3 ≤ edition.version then [.optional "min-platform-tools-rev" (.value .positive)] else []
  | .platformTool => []
  | .extra =>
    [.optional "vendor" (.value .word), .required "path" (.value .word)] ++
      (if edition.kind == .addon && edition.version < 2 then [] else [.minTools])

/-- What an element of a form holds. -/
def content (edition : Edition) : Form → Content
  | .index =>
    .items (edition.packageKinds.map (fun kind => (kind.name, .package kind)) ++
      [("license", .license)]) false
  | .package kind => .fields (edition.ownFields kind ++ Field.common)
  | .license => .value (.text .kept)
  | .licenseRef | .flag => .nothing
  | .libraries => .items [("lib", .library)] false
  | .library => .fields [.required "name" .token, .optional "description" .token]
  | .archives => .items [("archive", .archive)] true
  | .archive =>
    .fields [.required "size" (.value .positive), .required "checksum" .checksum,
      .required "url" .token]
  | .checksum => .value .digest
  | .value type => .value type

end Edition

/-- The names of the systems that archives are made for. -/
def osNames : List String :=
  ["any", "linux", "macosx", "windows"]

/-- The names of the architectures that archives are made for. -/
def archNames : List String :=
  ["any", "ppc", "x86", "x86_64"]

/-- The names of the kinds of checksums. -/
def checksumNames : List String :=
  ["sha1"]

namespace Form

/-- The attributes that an element of a form may have. -/
def attributes : Form → List AttributeRule
  | .license => [⟨"id", true, .anything⟩, ⟨"type", false, .exactly "text"⟩]
  | .licenseRef => [⟨"ref", true, .anything⟩]
  | .archive => [⟨"os", true, .oneOf osNames⟩, ⟨"arch", false, .oneOf archNames⟩]
  | .checksum => [⟨"type", true, .oneOf checksumNames⟩]
  | _ => []

/-- The forms whose types the type of a form is derived from, the nearest first. -/
def bases : Form → List Form
  | .value type => type.bases.map .value
  | .license => [lines]
  | .checksum => [.value .digest, lines]
  | _ => []

/-- Whether an element that should be of the form `declared` may be of another form. -/
def isKindOf (form declared : Form) : Bool :=
  form == declared || form.bases.contains declared

end Form

/-- The namespace of the types that every schema knows. -/
def typeSpace : String :=
  "http://www.w3.org/2001/XMLSchema"

/-- The types that every schema knows and that elements of an index can have. -/
def commonForms : List (String × Form) :=
  [("string", .lines), ("normalizedString", .line), ("token", .token),
    ("positiveInteger", .value .positive)] ++
    [SpecialType.language, .nameToken, .name, .plainName, .id, .idRef, .entity].map
      fun type => (type.label, .value (.special type))

/-- The other types that every schema knows. No type of the editions is one that they are derived
from. -/
def foreignTypes : List String :=
  ["anyType", "anySimpleType", "decimal", "date", "dateTime", "time", "gYear", "gYearMonth",
    "gMonth", "gMonthDay", "gDay", "duration", "float", "double", "boolean", "anyURI", "hexBinary",
    "base64Binary", "NOTATION", "QName", "integer", "nonPositiveInteger", "negativeInteger", "long",
    "int", "short", "byte", "nonNegativeInteger", "unsignedLong", "unsignedInt", "unsignedShort",
    "unsignedByte", "NMTOKENS", "IDREFS", "ENTITIES"]

/-- The name of the type of the packages of a kind. -/
def packageType : Package.Kind → String
  | .platform => "platformType"
  | .addon => "addonType"
  | .sample => "sampleType"
  | .doc => "docType"
  | .tool => "toolType"
  | .platformTool => "platformToolType"
  | .extra => "extraType"

namespace Edition

/-- The types that an edition names. -/
def namedForms (edition : Edition) : List (String × Form) :=
  edition.packageKinds.map (fun kind => (packageType kind, .package kind)) ++
    [("licenseType", .license), ("usesLicenseType", .licenseRef), ("obsoleteType", .flag),
      ("segmentType", .value .word), ("libsType", .libraries), ("archivesType", .archives),
      ("checksumType", .checksum), ("sha1Number", .value .digest),
      ("checksumAlgo", .value (.listed checksumNames)), ("osType", .value (.listed osNames)),
      ("archType", .value (.listed archNames))]

/-- The form of the elements of a type. -/
def formNamed? (edition : Edition) (name : Xml.Name) : Option Form :=
  if name.space == typeSpace then commonForms.lookup name.label
  else if name.space == edition.space then edition.namedForms.lookup name.label
  else none

end Edition

end SdkFeed.Schema
