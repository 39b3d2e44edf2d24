/-!
Packages: what an index offers for download. Every package has the common fields and one variant
with the fields of its own.
-/

namespace SdkFeed.Package

/-- A file to download. -/
structure Archive where
  url : String
  size : Int := 0
  checksum : String := ""
  checksumType : String := "sha1"
  os : String := "any"
  arch : String := "any"
deriving DecidableEq, Repr

/-- Whether an archive can be installed on a system. What an archive declares as `any` fits all,
and so does asking for any architecture. -/
def Archive.isCompatible (archive : Archive) (os arch : String) : Bool :=
  (archive.os == "any" || archive.os == os) &&
    (archive.arch == "any" || arch == "any" || archive.arch == arch)

/-- A library that an add-on brings along. -/
structure Library where
  name : String
  description : String := ""
deriving DecidableEq, Repr

/-- The kinds of packages. -/
inductive Kind where
  | platform
  | addon
  | sample
  | doc
  | tool
  | platformTool
  | extra
deriving DecidableEq, Repr

namespace Kind

/-- All kinds in the order in which packages are listed. -/
def all : List Kind :=
  [.platform, .addon, .sample, .doc, .tool, .platformTool, .extra]

/-- The position of a kind in listings. -/
def rank (kind : Kind) : Nat :=
  all.idxOf kind

/-- The element that describes a package of this kind. -/
def name : Kind → String
  | .platform => "platform"
  | .addon => "add-on"
  | .sample => "sample"
  | .doc => "doc"
  | .tool => "tool"
  | .platformTool => "platform-tool"
  | .extra => "extra"

/-- The kind that an element describes. -/
def ofName? (name : String) : Option Kind :=
  all.find? (·.name == name)

/-- Whether only trusted sources may publish packages of this kind. -/
def isRestricted : Kind → Bool
  | .addon | .extra => false
  | _ => true

end Kind

/-- What is particular to a package of each kind. -/
inductive Variant where
  | platform (version : String) (apiLevel : Int) (codename : String) (minToolsRevision : Int)
  | addon (name vendor : String) (apiLevel : Int) (codename : String) (libraries : List Library)
  | sample (apiLevel : Int) (codename : String) (minToolsRevision : Int)
  | doc (apiLevel : Int) (codename : String)
  | tool (minPlatformToolsRevision : Int)
  | platformTool
  | extra (vendor path : String) (minToolsRevision : Int)
deriving DecidableEq, Repr

namespace Variant

/-- The kind of a variant. -/
def kind : Variant → Kind
  | platform .. => .platform
  | addon .. => .addon
  | sample .. => .sample
  | doc .. => .doc
  | tool .. => .tool
  | platformTool => .platformTool
  | extra .. => .extra

/-- The level of the programming interface; 0 for variants that have none. -/
def apiLevel : Variant → Int
  | platform _ level _ _ => level
  | addon _ _ level _ _ => level
  | sample level _ _ => level
  | doc level _ => level
  | _ => 0

/-- The text by which packages of one kind and level are listed. -/
def nameKey : Variant → String
  | addon name vendor _ _ _ => vendor ++ "|" ++ name
  | extra vendor path _ => vendor ++ "|" ++ path
  | _ => ""

end Variant

end SdkFeed.Package

namespace SdkFeed

/-- A package. -/
structure Package where
  /-- The address of the index that describes it. -/
  sourceUrl : String := ""
  revision : Int := 0
  description : String := ""
  descriptionUrl : String := ""
  releaseNote : String := ""
  releaseUrl : String := ""
  isObsolete : Bool := false
  /-- The name of the licence, if the package names one. -/
  licenseRef : Option String := none
  /-- The text of the licence, if the index has it. -/
  license : Option String := none
  archives : List Package.Archive := []
  variant : Package.Variant
deriving DecidableEq, Repr

namespace Package

/-- The kind of a package. -/
def kind (package : Package) : Kind :=
  package.variant.kind

/-- The level of the programming interface of a package; 0 if it has none. -/
def apiLevel (package : Package) : Int :=
  package.variant.apiLevel

/-- How a level is shown: a level with a code name is not yet final. -/
def levelLabel (level : Int) (codename : String) : String :=
  if codename.isEmpty then "API " ++ toString level else codename ++ " Preview"

/-- What a package is, without its revision. -/
def Variant.title : Variant → String
  | platform version level codename _ =>
    "SDK Platform Android " ++ version ++ ", " ++ levelLabel level codename
  | addon name _ level codename _ => name ++ ", Android " ++ levelLabel level codename
  | sample level codename _ => "Samples for SDK " ++ levelLabel level codename
  | doc level codename => "Documentation for Android SDK, " ++ levelLabel level codename
  | tool _ => "Android SDK Tools"
  | platformTool => "Android SDK Platform-tools"
  | extra vendor path _ =>
    let title := path.map fun c => if c == '_' then ' ' else c
    (if vendor.isEmpty then title else vendor ++ " " ++ title) ++ " package"

/-- One line about a package. -/
def shortDescription (package : Package) : String :=
  package.variant.title ++ ", revision " ++ toString package.revision

/-- The description of a package, or the line about it when it has none, and its revision. -/
def longDescription (package : Package) : String :=
  let text := if package.description.isEmpty then package.shortDescription else package.description
  text ++ (if package.isObsolete then " (Obsolete)" else "") ++
    "\nRevision " ++ toString package.revision

end Package

end SdkFeed
