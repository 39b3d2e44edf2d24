/-!
The two families of index documents. A family fixes the root element, the usual file name, and
the namespaces of its versions; a kind of source decides which family its documents belong to.
-/

namespace SdkFeed.Feed

/-- What the documents of one family have in common. -/
structure Family where
  /-- The name of the root element. -/
  root : String
  /-- The file name an index has when a source names only a directory. -/
  indexFile : String
  /-- The namespace of a version is this text followed by the number. -/
  spaceStem : String
  /-- The newest version that is understood. -/
  latest : Int
  /-- The stem of the names of the schema files. -/
  schemaStem : String
deriving DecidableEq, Repr

namespace Family

/-- The trusted index, published with the kit. -/
def repository : Family where
  root := "sdk-repository"
  indexFile := "repository.xml"
  spaceStem := "http://schemas.android.com/sdk/android/repository/"
  latest := 3
  schemaStem := "sdk-repository"

/-- The indexes of third parties. -/
def addon : Family where
  root := "sdk-addon"
  indexFile := "addon.xml"
  spaceStem := "http://schemas.android.com/sdk/android/addon/"
  latest := 2
  schemaStem := "sdk-addon"

/-- The namespace of a version. -/
def space (family : Family) (version : Int) : String :=
  family.spaceStem ++ toString version

/-- The namespace of the newest version that is understood. -/
def latestSpace (family : Family) : String :=
  family.space family.latest

/-- The name of the file with the schema of a version. -/
def schemaFile (family : Family) (version : Int) : String :=
  family.schemaStem ++ "-" ++ toString version ++ ".xsd"

/-- Whether a version is understood. -/
def supports (family : Family) (version : Int) : Bool :=
  1 ≤ version && version ≤ family.latest

/-- The digits of the version in a namespace of the family: ASCII digits, the first of them not
zero, and nothing behind them. -/
def versionDigits? (family : Family) (space : String) : Option (List Char) :=
  match family.spaceStem.toList.isPrefixOf? space.toList with
  | some (first :: rest) =>
    if first != '0' && (first :: rest).all Char.isDigit then some (first :: rest) else none
  | _ => none

end Family

/-- The kinds of sources. Repositories are trusted and may publish every package; add-on sites
are given by the user and contribute add-ons and extras only. -/
inductive Kind where
  | repository
  | addon
deriving DecidableEq, Repr, Inhabited

namespace Kind

/-- All kinds, in the order in which messages list them. -/
def all : List Kind :=
  [.repository, .addon]

/-- The name of a kind. -/
def name : Kind → String
  | .repository => "repository"
  | .addon => "addon"

/-- The kind of a given name. -/
def ofName? (name : String) : Option Kind :=
  all.find? (·.name == name)

/-- Whether sources of this kind are trusted. -/
def isTrusted : Kind → Bool
  | .repository => true
  | .addon => false

/-- The family of the documents that sources of this kind publish. -/
def family : Kind → Family
  | .repository => .repository
  | .addon => .addon

end Kind

end SdkFeed.Feed
