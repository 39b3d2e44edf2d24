import SdkFeed.Feed.Kind
import SdkFeed.Package.Basic
import SdkFeed.Text.Character
import SdkFeed.Text.Integer
import SdkFeed.Xml.Namespace

/-!
Reading one package from the element that describes it. Main definition: `ofElement`. An element
that lacks a required field, or has a number that cannot be read, is at fault; which fault is
reported depends on the order of reading and not on the order of the document.
-/

namespace SdkFeed.Package

open SdkFeed.Xml SdkFeed.Text

/-- What is wrong with the description of a package. -/
inductive Fault where
  | missing (field : String)
  | invalid (field value : String)
deriving DecidableEq, Repr

/-- What is told about a fault. -/
def Fault.reason : Fault → String
  | missing field => "missing <" ++ field ++ ">"
  | invalid field value => "invalid <" ++ field ++ "> value '" ++ value ++ "'"

/-- The texts of the licences of an index by their names. -/
abbrev Licenses := List (String × String)

/-- The namespace that stands for any one, or none, where children are looked for. -/
def anySpace : String :=
  "*"

/-- The children with a given name in a given namespace. A namespace is taken to hold no closing brace:
names are looked for in their written form, and no document that can be read declares one that does
(`NameFault.closingBrace`). -/
def childrenNamed (element : Tree) (space label : String) : List Tree :=
  element.children.filter fun child =>
    child.name.label == label && (space == anySpace || child.name.space == space)

/-- The first child with a given name in a given namespace. -/
def childNamed? (element : Tree) (space label : String) : Option Tree :=
  (childrenNamed element space label).head?

/-- The value of an attribute that is in no namespace. -/
def plainAttribute? (element : Tree) (label : String) : Option String :=
  element.attribute? (⟨"", label⟩ : Name)

/-- The trimmed text at the start of an element. -/
def trimmedText (element : Tree) : String :=
  trim (element.text?.getD "")

/-- The trimmed text of a child, empty if there is no such child. -/
def textOf (element : Tree) (space label : String) : String :=
  ((childNamed? element space label).map trimmedText).getD ""

/-- The text of a child that must not be blank. -/
def requiredText (element : Tree) (space label : String) : Except Fault String :=
  let text := textOf element space label
  if text.isEmpty then .error (.missing label) else .ok text

/-- The number in a text that is not empty. -/
def readInteger (label text : String) : Except Fault Int :=
  match integer? text.toList with
  | some n => .ok n
  | none => .error (.invalid label text)

/-- The number in a child; a blank child counts as 0. -/
def optionalInteger (element : Tree) (space label : String) : Except Fault Int :=
  let text := textOf element space label
  if text.isEmpty then .ok 0 else readInteger label text

/-- The number in a child that must not be blank. -/
def requiredInteger (element : Tree) (space label : String) : Except Fault Int := do
  readInteger label (← requiredText element space label)

/-- Read an archive. Its checksum may be absent. -/
def Archive.ofElement (space : String) (element : Tree) : Except Fault Archive := do
  let checksum := childNamed? element space "checksum"
  return {
    url := ← requiredText element space "url"
    size := ← optionalInteger element space "size"
    checksum := (checksum.map trimmedText).getD ""
    checksumType := (checksum.bind (plainAttribute? · "type")).getD "sha1"
    os := (plainAttribute? element "os").getD "any"
    arch := (plainAttribute? element "arch").getD "any" }

/-- Read the archives of a package; only its first list of archives counts. -/
def archivesOf (element : Tree) (space : String) : Except Fault (List Archive) :=
  match childNamed? element space "archives" with
  | none => .ok []
  | some list => (childrenNamed list space "archive").mapM (Archive.ofElement space)

/-- Read the libraries of an add-on; only its first list of libraries counts. -/
def librariesOf (element : Tree) (space : String) : Except Fault (List Library) :=
  match childNamed? element space "libs" with
  | none => .ok []
  | some list => (childrenNamed list space "lib").mapM fun library => do
    return ⟨← requiredText library space "name", textOf library space "description"⟩

/-- The text of the licence that a reference names. -/
def licenseOf (licenses : Licenses) : Option String → Option String
  | none => none
  | some name => if name.isEmpty then none else licenses.lookup name

/-- Read the fields that all packages have; `variant` reads the rest afterwards. -/
def withCommon (element : Tree) (space : String) (licenses : Licenses) (sourceUrl : String)
    (variant : Except Fault Variant) : Except Fault Package := do
  let revision ← requiredInteger element space "revision"
  let archives ← archivesOf element space
  let licenseRef := (childNamed? element space "uses-license").bind (plainAttribute? · "ref")
  return {
    sourceUrl, revision, archives, licenseRef
    description := textOf element space "description"
    descriptionUrl := textOf element space "desc-url"
    releaseNote := textOf element space "release-note"
    releaseUrl := textOf element space "release-url"
    isObsolete := (childNamed? element space "obsolete").isSome
    license := licenseOf licenses licenseRef
    variant := ← variant }

/-- Read the fields of a variant. The libraries of an add-on are read beforehand. -/
def variantOf (element : Tree) (space : String) (libraries : List Library) :
    Kind → Except Fault Variant
  | .platform => do
    return .platform (← requiredText element space "version")
      (← requiredInteger element space "api-level") (textOf element space "codename")
      (← optionalInteger element space "min-tools-rev")
  | .addon => do
    return .addon (← requiredText element space "name") (← requiredText element space "vendor")
      (← requiredInteger element space "api-level") (textOf element space "codename") libraries
  | .sample => do
    return .sample (← requiredInteger element space "api-level") (textOf element space "codename")
      (← optionalInteger element space "min-tools-rev")
  | .doc => do
    return .doc (← requiredInteger element space "api-level") (textOf element space "codename")
  | .tool => do
    return .tool (← optionalInteger element space "min-platform-tools-rev")
  | .platformTool => return .platformTool
  | .extra => do
    return .extra (textOf element space "vendor") (← requiredText element space "path")
      (← optionalInteger element space "min-tools-rev")

/-- Read a package of a known kind. -/
def ofElementOfKind (kind : Kind) (element : Tree) (space : String) (licenses : Licenses)
    (sourceUrl : String) : Except Fault Package := do
  let libraries ← if kind = .addon then librariesOf element space else pure []
  withCommon element space licenses sourceUrl (variantOf element space libraries kind)

/-- The kind of package that an element of a source's document describes, if the source may
publish it. -/
def kindOf? (source : Feed.Kind) (label : String) : Option Kind :=
  (Kind.ofName? label).filter fun kind => source.isTrusted || !kind.isRestricted

/-- Read the package that an element describes. Elements that describe none, or none that the
source may publish, give `none`. A fault comes with the name of the element. -/
def ofElement (source : Feed.Kind) (space : String) (licenses : Licenses) (sourceUrl : String)
    (element : Tree) : Except (String × Fault) (Option Package) :=
  match kindOf? source element.name.label with
  | none => .ok none
  | some kind =>
    match ofElementOfKind kind element space licenses sourceUrl with
    | .ok package => .ok (some package)
    | .error fault => .error (kind.name, fault)

end SdkFeed.Package
