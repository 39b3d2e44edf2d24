import SdkFeed.Catalog.Refresh
import SdkFeed.Console.Table
import SdkFeed.JsonValue

/-!
How sources, packages and the outcomes of loads are shown: as tables, and as structured output.
-/

namespace SdkFeed

open Console

/-- The number of archives of a package that can be installed on a system. -/
def Package.countFor (package : Package) (os : String) : Nat :=
  (package.archives.filter (·.isCompatible os "any")).length

/-- An archive in structured output. -/
def Package.Archive.toJson (archive : Package.Archive) : JsonValue :=
  .object [("url", .text archive.url), ("size", .int archive.size),
    ("checksum", .text archive.checksum), ("checksum_type", .text archive.checksumType),
    ("os", .text archive.os), ("arch", .text archive.arch)]

/-- A package in structured output. For a system, the number of its archives is added. -/
def Package.toJson (os : Option String) (package : Package) : JsonValue :=
  .object ([("kind", .text package.kind.name),
    ("short_description", .text package.shortDescription),
    ("long_description", .text package.longDescription), ("revision", .int package.revision),
    ("api_level", .int package.apiLevel), ("description", .text package.description),
    ("obsolete", .bool package.isObsolete), ("license_ref", .ofText? package.licenseRef),
    ("source_url", .text package.sourceUrl),
    ("archives", .list (package.archives.map Package.Archive.toJson))] ++
    (os.map fun os => ("compatible_archives", JsonValue.int (package.countFor os))).toList)

/-- A source in structured output. -/
def Source.toJson (source : Source) : JsonValue :=
  .object [("url", .text source.url), ("name", .ofText? source.name),
    ("kind", .text source.kind.name), ("loaded", .bool source.packages.isSome),
    ("package_count", .int ((source.packages.map List.length).getD 0)),
    ("description", .text source.description), ("fetch_error", .ofText? source.fetchError)]

namespace Load.Outcome

/-- The outcome of a load and what was reported on the way, in structured output. -/
def toJson (os : Option String) (record : Record) (outcome : Outcome) : JsonValue :=
  .object [("url", .text outcome.url), ("state", .text outcome.state.name),
    ("success", .bool outcome.isSuccess), ("description", .text outcome.description),
    ("error", .ofText? outcome.error),
    ("error_kind", .ofText? (outcome.errorKind.map ErrorKind.name)),
    ("validation_error", .ofText? outcome.validationError),
    ("schema_version", .int outcome.version), ("schema_uri", .ofText? outcome.space),
    ("used_alternate_url", .bool outcome.usedAlternate),
    ("upgrade_required", .bool outcome.needsUpgrade),
    ("packages", ((outcome.packages.map fun packages =>
      JsonValue.list (packages.map (Package.toJson os))).getD .null)),
    ("monitor", .object [("descriptions", .ofTexts record.descriptions),
      ("results", .ofTexts record.results)])]

/-- The row of a package. -/
def packageRow (os : Option String) (package : Package) : List String :=
  let total := toString package.archives.length
  [package.kind.name, escape package.shortDescription, toString package.revision,
    (os.map fun os => toString (package.countFor os) ++ "/" ++ total).getD total,
    if package.isObsolete then "yes" else ""]

/-- The table of packages. -/
def packageTable (os : Option String) (packages : List Package) : Table where
  title := "Packages"
  columns := [⟨"Kind", false⟩, ⟨"Package", false⟩, ⟨"Revision", true⟩, ⟨"Archives", true⟩,
    ⟨"Obsolete", false⟩]
  rows := packages.map (packageRow os)

/-- The outcome of a load as it is printed. -/
def print (os : Option String) (outcome : Outcome) : String :=
  let verdict := if outcome.isSuccess then say .green ("✓ " ++ outcome.url)
    else say .red ("✗ " ++ outcome.url)
  let packages := outcome.packages.getD []
  let table := if packages.isEmpty then "" else (packageTable os packages).print
  let error := ((nonempty outcome.error).map
    (say (if outcome.isSuccess then .yellow else .red))).getD ""
  verdict ++ say .dim outcome.description ++ table ++ error

/-- How a load went, in a few words. -/
def status (outcome : Outcome) : String :=
  if !outcome.isSuccess then
    styled .red ("✗ " ++ (nonempty outcome.error).getD outcome.state.name)
  else if outcome.needsUpgrade then styled .yellow "⚠ Upgrade required"
  else styled .green "✓ OK"

end Load.Outcome

namespace Catalog

/-- The table of sources. -/
def table (catalog : Catalog) : Table where
  title := "Sources"
  columns := [⟨"URL", false⟩, ⟨"Name", false⟩, ⟨"Kind", false⟩]
  rows := catalog.sources.map fun source =>
    [escape source.url, escape (source.name.getD ""), source.kind.name]

/-- The row of a source that was loaded. -/
def visitRow (source : Source) (outcome : Load.Outcome) : List String :=
  [escape source.shortDescription,
    (outcome.packages.map fun packages => toString packages.length).getD "-", outcome.status]

/-- The table of sources that were loaded. -/
def refreshTable (visits : List (Source × Load.Outcome)) : Table where
  title := "Source Refresh"
  columns := [⟨"Source", false⟩, ⟨"Packages", true⟩, ⟨"Status", false⟩]
  rows := visits.map fun (source, outcome) => visitRow source outcome

end Catalog

end SdkFeed
