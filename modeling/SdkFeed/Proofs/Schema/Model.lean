import Mathlib.Tactic.MkIffOfInductiveProp
import SdkFeed.Proofs.Xml.Tree
import SdkFeed.Schema.Edition

/-! The content models of the published schemas, told of whole elements: which children they have and how
often, which attributes, and what their text is. Nothing here depends on the order in which the pieces
of an element come, or knows of forms, of findings or of a first fault. -/
namespace SdkFeed.Schema

open SdkFeed.Xml

/-- A text with a given core and nothing but white space around it. -/
def IsPadded (core raw : String) : Prop :=
  ∃ front back, raw.toList = front ++ core.toList ++ back ∧
    (∀ c ∈ front, isSpace c = true) ∧ ∀ c ∈ back, isSpace c = true

/-- One of a few texts, with white space around it. -/
def IsOneOf (choices : List String) (raw : String) : Prop :=
  ∃ choice ∈ choices, IsPadded choice raw

/-- A decimal integer above 0 in ASCII digits, perhaps behind a plus sign. -/
def IsPositiveNumber (raw : String) : Prop :=
  ∃ core digits, IsPadded core raw ∧ (core.toList = '+' :: digits ∨ core.toList = digits) ∧
    (∀ c ∈ digits, c.isDigit = true) ∧ 0 < Nat.ofDigitChars 10 digits 0

/-- A word of ASCII letters, digits and underscores. -/
def IsWord (raw : String) : Prop :=
  ∃ core, IsPadded core raw ∧ core ≠ "" ∧ ∀ c ∈ core.toList, isWordChar c = true

/-- Forty hexadecimal digits, without white space. -/
def IsDigest (raw : String) : Prop :=
  raw.toList.length = 40 ∧ ∀ c ∈ raw.toList, isHexDigit c = true

/-- Any text. -/
def IsAnything (_ : String) : Prop :=
  True

/-- An attribute that an element may have. -/
structure AttributeUse where
  label : String
  isRequired : Bool
  IsValue : String → Prop

/-- An element has attributes of the given uses only, and all of those that are required. -/
structure HasAttributes (uses : List AttributeUse) (element : Tree) : Prop where
  known : ∀ attr ∈ element.attributes,
    ∃ use ∈ uses, attr.1 = ⟨"", use.label⟩ ∧ use.IsValue attr.2
  required : ∀ use ∈ uses, use.isRequired = true →
    ∃ value, (⟨"", use.label⟩, value) ∈ element.attributes

/-- An element with a text and no children. -/
structure IsSimple (IsValue : String → Prop) (element : Tree) : Prop where
  children : element.children = []
  text : IsValue (String.join (element.content.filterMap Item.text?))

/-- All texts of an element are white space. -/
def HasBlankText (element : Tree) : Prop :=
  ∀ text, Item.text text ∈ element.content → ∀ c ∈ text.toList, isSpace c = true

/-- How often an element has a child with a label. -/
def labelCount (element : Tree) (label : String) : Nat :=
  (element.children.map fun child => child.name.label).count label

/-- A child that an element may have. -/
structure Particle where
  label : String
  isRequired : Bool
  IsFit : Tree → Prop

/-- A child that must be there. -/
def one (label : String) (IsFit : Tree → Prop) : Particle :=
  ⟨label, true, IsFit⟩

/-- A child that may be there. -/
def perhaps (label : String) (IsFit : Tree → Prop) : Particle :=
  ⟨label, false, IsFit⟩

/-- The children of an element are those of the particles, none of them more than once and the required
ones exactly once, in any order. -/
structure IsAll (space : String) (particles : List Particle) (element : Tree) : Prop where
  text : HasBlankText element
  known : ∀ child ∈ element.children, child.name.space = space ∧
    ∃ particle ∈ particles, particle.label = child.name.label ∧ particle.IsFit child
  once : ∀ particle ∈ particles, labelCount element particle.label ≤ 1
  required : ∀ particle ∈ particles, particle.isRequired = true →
    labelCount element particle.label = 1

/-- The children of an element are any number of the choices, in any order. -/
structure IsChoice (space : String) (choices : List (String × (Tree → Prop))) (element : Tree) :
    Prop where
  text : HasBlankText element
  known : ∀ child ∈ element.children, child.name.space = space ∧
    ∃ choice ∈ choices, choice.1 = child.name.label ∧ choice.2 child

/-- An element with a value and nothing else. -/
@[mk_iff] structure IsValueElement (IsValue : String → Prop) (element : Tree) : Prop where
  attributes : HasAttributes [] element
  value : IsSimple IsValue element

/-- An element without anything in it. -/
@[mk_iff] structure IsFlag (element : Tree) : Prop where
  attributes : HasAttributes [] element
  content : element.content = []

/-- A reference to a license. -/
@[mk_iff] structure IsLicenseRef (element : Tree) : Prop where
  attributes : HasAttributes [⟨"ref", true, IsAnything⟩] element
  content : element.content = []

/-- A license with its name and its text. -/
@[mk_iff] structure IsLicense (element : Tree) : Prop where
  attributes : HasAttributes [⟨"id", true, IsAnything⟩, ⟨"type", false, IsPadded "text"⟩] element
  value : IsSimple IsAnything element

/-- The checksum of an archive. -/
@[mk_iff] structure IsChecksum (element : Tree) : Prop where
  attributes : HasAttributes [⟨"type", true, IsOneOf ["sha1"]⟩] element
  value : IsSimple IsDigest element

/-- An archive. -/
@[mk_iff] structure IsArchive (space : String) (element : Tree) : Prop where
  attributes : HasAttributes
    [⟨"os", true, IsOneOf ["any", "linux", "macosx", "windows"]⟩,
      ⟨"arch", false, IsOneOf ["any", "ppc", "x86", "x86_64"]⟩] element
  content : IsAll space [one "size" (IsValueElement IsPositiveNumber), one "checksum" IsChecksum,
    one "url" (IsValueElement IsAnything)] element

/-- One or more archives. -/
@[mk_iff] structure IsArchives (space : String) (element : Tree) : Prop where
  attributes : HasAttributes [] element
  content : IsChoice space [("archive", IsArchive space)] element
  filled : element.children ≠ []

/-- A library of an add-on. -/
@[mk_iff] structure IsLibrary (space : String) (element : Tree) : Prop where
  attributes : HasAttributes [] element
  content : IsAll space
    [one "name" (IsValueElement IsAnything), perhaps "description" (IsValueElement IsAnything)] element

/-- Any number of libraries. -/
@[mk_iff] structure IsLibraries (space : String) (element : Tree) : Prop where
  attributes : HasAttributes [] element
  content : IsChoice space [("lib", IsLibrary space)] element

/-- The children that all packages have. -/
def commonParticles (space : String) : List Particle :=
  [one "revision" (IsValueElement IsPositiveNumber), one "archives" (IsArchives space),
    perhaps "uses-license" IsLicenseRef, perhaps "description" (IsValueElement IsAnything),
    perhaps "desc-url" (IsValueElement IsAnything), perhaps "release-note" (IsValueElement IsAnything),
    perhaps "release-url" (IsValueElement IsAnything), perhaps "obsolete" IsFlag]

namespace Edition

/-- Children that an edition knows if it is of a given version or a later one. -/
def since (edition : Edition) (version : Int) (particles : List Particle) : List Particle :=
  if version ≤ edition.version then particles else []

/-- The children of a package of a kind beside those that all packages have. -/
def ownParticles (edition : Edition) : Package.Kind → List Particle
  | .platform =>
    [one "version" (IsValueElement IsAnything), one "api-level" (IsValueElement IsPositiveNumber),
      perhaps "min-tools-rev" (IsValueElement IsPositiveNumber)] ++
      edition.since 2 [perhaps "codename" (IsValueElement IsAnything)]
  | .addon =>
    [one "name" (IsValueElement IsAnything), one "vendor" (IsValueElement IsAnything),
      one "api-level" (IsValueElement IsPositiveNumber),
      perhaps "libs" (IsLibraries edition.space)] ++
      edition.since 2 [perhaps "codename" (IsValueElement IsAnything)]
  | .sample =>
    [one "api-level" (IsValueElement IsPositiveNumber),
      perhaps "min-tools-rev" (IsValueElement IsPositiveNumber),
      perhaps "codename" (IsValueElement IsAnything)]
  | .doc =>
    one "api-level" (IsValueElement IsPositiveNumber) ::
      edition.since 2 [perhaps "codename" (IsValueElement IsAnything)]
  | .tool =>
    edition.since 3 [perhaps "min-platform-tools-rev" (IsValueElement IsPositiveNumber)]
  | .platformTool => []
  | .extra =>
    [perhaps "vendor" (IsValueElement IsWord), one "path" (IsValueElement IsWord)] ++
      (match edition.kind with
        | .repository => [perhaps "min-tools-rev" (IsValueElement IsPositiveNumber)]
        | .addon => edition.since 2 [perhaps "min-tools-rev" (IsValueElement IsPositiveNumber)])

/-- A package of a kind. -/
@[mk_iff] structure IsPackage (edition : Edition) (kind : Package.Kind) (element : Tree) : Prop where
  attributes : HasAttributes [] element
  content : IsAll edition.space (edition.ownParticles kind ++ commonParticles edition.space) element

/-- The elements that an index of an edition is made of. -/
def choices (edition : Edition) : List (String × (Tree → Prop)) :=
  let packages : List Package.Kind := match edition.kind, edition.version with
    | .addon, _ => [.addon, .extra]
    | .repository, 1 => [.platform, .addon, .doc, .tool, .extra]
    | .repository, 2 => [.platform, .addon, .doc, .tool, .extra, .sample]
    | .repository, _ => [.platform, .addon, .doc, .tool, .extra, .sample, .platformTool]
  packages.map (fun kind => (kind.name, edition.IsPackage kind)) ++ [("license", IsLicense)]

/-- A tree that conforms to the schema of an edition: an index with packages and licenses. -/
structure Conforms (edition : Edition) (root : Tree) : Prop where
  name : root.name = ⟨edition.space, edition.kind.family.root⟩
  attributes : HasAttributes [] root
  content : IsChoice edition.space edition.choices root

end Edition

end SdkFeed.Schema
