import SdkFeed.Package.Entry
import SdkFeed.Package.Order
import SdkFeed.Report

/-!
From a document to its packages. An element at fault is reported and skipped; it never spoils the
rest of the document.
-/

namespace SdkFeed.Package

open SdkFeed.Xml

/-- Whether an element has a given name in a given namespace; the empty namespace holds none. -/
def isNamed (element : Tree) (space label : String) : Bool :=
  !space.isEmpty && element.name == ⟨space, label⟩

/-- The names and texts of the licences among the children of an element, the last first: of two
licences with one name the later counts. -/
def licensesOf (root : Tree) (space : String) : Licenses :=
  (root.children.filterMap fun child =>
    if isNamed child space "license" then
      (plainAttribute? child "id").map fun name => (name, child.innerText)
    else none).reverse

/-- What comes of one child of the root. -/
inductive Entry where
  | found (package : Package)
  | faulty (label : String) (fault : Fault)
deriving DecidableEq, Repr

namespace Entry

/-- The entry that a child makes, if it makes any. -/
def ofChild? (source : Feed.Kind) (space : String) (licenses : Licenses) (sourceUrl : String)
    (child : Tree) : Option Entry :=
  if child.name.space != space then none
  else match ofElement source space licenses sourceUrl child with
    | .ok package => package.map found
    | .error (_, fault) => some (faulty child.name.label fault)

/-- The package of an entry. -/
def package? : Entry → Option Package
  | found package => some package
  | faulty .. => none

/-- What is told of an entry at fault. -/
def complaint? : Entry → Option String
  | found _ => none
  | faulty label fault => some ("Ignoring invalid " ++ label ++ " element: " ++ fault.reason)

/-- The report of an entry. -/
def report : Entry → Report
  | found package => .description ("Found " ++ package.shortDescription)
  | faulty label fault =>
    .result ("Ignoring invalid " ++ label ++ " element: " ++ fault.reason)

end Entry

/-- The entries of a document in document order. -/
def entries (source : Feed.Kind) (space sourceUrl : String) (root : Tree) : List Entry :=
  root.children.filterMap (Entry.ofChild? source space (licensesOf root space) sourceUrl)

/-- What reading a document gives: its packages in listing order, or none when the root is not
the one expected; the reports; and the warnings for the log. -/
structure Index where
  packages : Option (List Package)
  reports : List Report
  warnings : List String
deriving DecidableEq, Repr

/-- Read the packages of a document. -/
def Index.ofDocument (source : Feed.Kind) (space sourceUrl : String) (root : Tree) : Index :=
  if isNamed root space source.family.root then
    let entries := entries source space sourceUrl root
    { packages := some (sorted (entries.filterMap Entry.package?))
      reports := entries.map Entry.report
      warnings := entries.filterMap Entry.complaint? }
  else
    { packages := none
      reports := []
      warnings := ["Expected <" ++ source.family.root ++ "> in " ++ space ++ ", found " ++
        root.name.render] }

end SdkFeed.Package
