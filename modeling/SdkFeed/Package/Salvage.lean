import SdkFeed.Package.Index
import SdkFeed.Xml.Read

/-!
Salvage from documents that are too new: the tools with which the kit could be brought up to date,
and the licences they name, copied into a document of the newest version that is understood. The
copy is made element by element from a fixed shape, so nothing unknown gets into it.
-/

namespace SdkFeed.Package.Salvage

open SdkFeed.Xml SdkFeed.Text

/-- The elements that are salvaged. -/
def toolLabels : List String :=
  [Kind.tool.name, Kind.platformTool.name]

/-- The children of a tool that are copied, its archives apart. -/
def toolFields : List String :=
  ["revision", "description", "desc-url", "release-note", "release-url", "obsolete",
    "uses-license", "min-platform-tools-rev"]

/-- The children of an archive that are copied. -/
def archiveFields : List String :=
  ["size", "checksum", "url"]

/-- A new element: attributes, perhaps a text, and children. -/
def build (space label : String) (attributes : List (Name × String)) (text : Option String)
    (children : List Tree) : Tree :=
  .mk ⟨space, label⟩ attributes 0 ((text.map Item.text).toList ++ children.map Item.child)

/-- A copy of an element without its children, its text trimmed. -/
def leaf (target : String) (element : Tree) : Tree :=
  let text := trimmedText element
  build target element.name.label element.attributes (if text.isEmpty then none else some text) []

/-- Copies of those children that are in the namespace and have one of the labels. -/
def leaves (source target : String) (labels : List String) (element : Tree) : List Tree :=
  (element.children.filter fun child =>
    child.name.space == source && labels.contains child.name.label).map (leaf target)

/-- A copy of an archive, if it has an address. -/
def archive? (source target : String) (archive : Tree) : Option Tree :=
  if (childNamed? archive source "url").isSome then
    some (build target "archive" archive.attributes none
      (leaves source target archiveFields archive))
  else none

/-- A copy of a tool, if it has a revision and an archive with an address. -/
def tool? (source target : String) (tool : Tree) : Option Tree := do
  guard (childNamed? tool source "revision").isSome
  let list ← childNamed? tool source "archives"
  let archives := (childrenNamed list source "archive").filterMap (archive? source target)
  guard !archives.isEmpty
  return build target tool.name.label [] none
    (leaves source target toolFields tool ++ [build target "archives" [] none archives])

/-- The licence that a salvaged tool names. -/
def licenseName? (target : String) (tool : Tree) : Option String :=
  ((childNamed? tool target "uses-license").bind (plainAttribute? · "ref")).filter (!·.isEmpty)

/-- A copy of a licence whose name is among those used. -/
def license? (source target : String) (used : List String) (child : Tree) : Option Tree := do
  guard (isNamed child source "license")
  guard (used.contains (← plainAttribute? child "id"))
  return build target "license" child.attributes (some child.innerText) []

/-- The copies of the tools of a document. -/
def tools (source target : String) (root : Tree) : List Tree :=
  (root.children.filter fun child =>
    child.name.space == source && toolLabels.contains child.name.label).filterMap
      (tool? source target)

/-- The reduced document, if any tool can be salvaged. The licences stand before the tools, the
last of them first. -/
def ofDocument? (family : Feed.Family) (root : Tree) : Option Tree := do
  let source := root.name.space
  let target := family.latestSpace
  guard (root.name.label == family.root && (family.versionDigits? source).isSome)
  let tools := tools source target root
  guard !tools.isEmpty
  let used := tools.filterMap (licenseName? target)
  let licenses := (root.children.filterMap (license? source target used)).reverse
  return build target family.root [] none (licenses ++ tools)

/-- Salvage from the bytes of a document. Only trusted sources publish tools. -/
def ofBytes (kind : Feed.Kind) (bytes : List UInt8) : Except ReadError (Option Tree) :=
  if kind.isTrusted && !bytes.isEmpty then
    match Xml.read bytes with
    | .ok root => .ok (ofDocument? kind.family root)
    | .error (.encoding fault) => .error (.encoding fault)
    | .error _ => .ok none
  else .ok none

end SdkFeed.Package.Salvage
