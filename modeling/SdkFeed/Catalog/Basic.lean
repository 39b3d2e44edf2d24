import SdkFeed.Path
import SdkFeed.Source

/-!
The catalog: the source that comes with the program, and the sources that the user has registered.
Sources are told apart by their addresses.
-/

namespace SdkFeed

/-- A catalog of sources. -/
structure Catalog where
  /-- The file that the sources of the user are kept in. -/
  path : Option Path
  builtin : List Source
  user : List Source
deriving DecidableEq, Repr

namespace Catalog

/-- The source that comes with the program. -/
def androidRepository : Source :=
  .ofUrl "https://dl-ssl.google.com/android/repository/repository.xml" (some "Android Repository")
    .repository

/-- A catalog without sources of the user. -/
def fresh (path : Option Path) (includeBuiltin : Bool) : Catalog where
  path
  builtin := if includeBuiltin then [androidRepository] else []
  user := []

/-- All sources, the built-in one first. -/
def sources (catalog : Catalog) : List Source :=
  catalog.builtin ++ catalog.user

/-- The number of sources. -/
def size (catalog : Catalog) : Nat :=
  catalog.sources.length

/-- Whether a source with the same address is there. -/
def contains (catalog : Catalog) (source : Source) : Bool :=
  catalog.sources.any (·.same source)

/-- The first source at an address. An address that names a directory stands for the index file in
it. -/
def get? (catalog : Catalog) (url : String) : Option Source :=
  catalog.sources.find? fun source =>
    source.url == url || source.url == Source.normalUrl source.kind url

/-- Register a source, unless one with its address is there. -/
def add (catalog : Catalog) (source : Source) : Catalog :=
  if catalog.contains source then catalog
  else { catalog with user := catalog.user ++ [source] }

/-- Whether the user has registered a source with the same address. -/
def isUser (catalog : Catalog) (source : Source) : Bool :=
  catalog.user.any (·.same source)

/-- The source that removing an address takes away. The built-in source stays. -/
def removable? (catalog : Catalog) (url : String) : Option Source :=
  (catalog.get? url).filter catalog.isUser

/-- Take away the source of the user at an address. -/
def remove (catalog : Catalog) (url : String) : Catalog :=
  match catalog.removable? url with
  | none => catalog
  | some source => { catalog with user := catalog.user.eraseP (·.same source) }

/-- A catalog of some sources of the user. Of sources with one address the first stays. -/
def ofSources (path : Option Path) (includeBuiltin : Bool) (sources : List Source) : Catalog :=
  sources.foldl add (fresh path includeBuiltin)

end Catalog

end SdkFeed
