import SdkFeed.Package.Basic

/-!
The order in which packages are listed: by kind, then the newest level first, then by name, then
the newest revision first. Packages that agree in all of this keep the order they came in.
-/

namespace SdkFeed.Package

/-- Where a package stands in a listing. -/
structure SortKey where
  rank : Nat
  /-- The negated level. -/
  level : Int
  name : String
  /-- The negated revision. -/
  revision : Int
deriving DecidableEq, Repr

/-- The sort key of a package. -/
def sortKey (package : Package) : SortKey where
  rank := package.kind.rank
  level := -package.apiLevel
  name := package.variant.nameKey
  revision := -package.revision

/-- Keys are compared field by field; names by code points. -/
def SortKey.precedes (a b : SortKey) : Bool :=
  if a.rank != b.rank then a.rank < b.rank
  else if a.level != b.level then a.level < b.level
  else if a.name != b.name then a.name < b.name
  else a.revision < b.revision

/-- Whether a package stands strictly before another one. -/
def precedes (a b : Package) : Bool :=
  a.sortKey.precedes b.sortKey

/-- Packages in listing order. -/
def sorted (packages : List Package) : List Package :=
  packages.mergeSort fun a b => !b.precedes a

end SdkFeed.Package
