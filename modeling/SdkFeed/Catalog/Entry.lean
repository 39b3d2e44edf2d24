import SdkFeed.Catalog.Basic
import SdkFeed.Yaml.Document

/-!
The entries of a sources file: a list with a mapping for each source of the user. Main
definitions: `ofDocument` reads the entries, and `records` gives the entries of a catalog.
-/

namespace SdkFeed.Catalog

open SdkFeed.Yaml

/-- Why an entry is no source. -/
inductive EntryError where
  | notAMapping
  | missingUrl
  | nameNotText
  | unknownKind (shown : String)
  /-- The kind is unknown, and it cannot be shown. -/
  | unshownKind (fault : Fault)
deriving Repr

/-- What is said about an entry. -/
def EntryError.message : EntryError → String
  | notAMapping => "Entry must be a mapping"
  | missingUrl => "Missing required field: url"
  | nameNotText => "Field 'name' must be a string"
  | unknownKind shown => "Invalid kind '" ++ shown ++ "'. Must be one of: [" ++
      ", ".intercalate (Feed.Kind.all.map fun kind => Text.quoted kind.name) ++ "]"
  | unshownKind _ => "Invalid kind"

/-- The address of an entry. It is not blank. -/
def entryUrl (fields : List (Value × Value)) : Except EntryError String :=
  match Value.field? fields "url" with
  | some (.text url) => if (Text.trim url).isEmpty then .error .missingUrl else .ok url
  | _ => .error .missingUrl

/-- The name of an entry. An empty name counts as none. -/
def entryName (fields : List (Value × Value)) : Except EntryError (Option String) :=
  match Value.field? fields "name" with
  | none | some .null => .ok none
  | some (.text name) => .ok (if name.isEmpty then none else some name)
  | some _ => .error .nameNotText

/-- The error about a kind that is unknown. -/
def EntryError.ofKind (contents : Contents) (kind : Value) : EntryError :=
  match contents.display kind with
  | .ok shown => unknownKind shown
  | .error fault => unshownKind fault

/-- The kind of an entry. An entry without one is an add-on site. -/
def entryKind (contents : Contents) (fields : List (Value × Value)) :
    Except EntryError Feed.Kind :=
  match Value.field? fields "kind" with
  | none => .ok .addon
  | some kind =>
    let known := match kind with
      | .text name => Feed.Kind.ofName? name
      | _ => none
    match known with
    | some kind => .ok kind
    | none => .error (.ofKind contents kind)

/-- The source of an entry. -/
def ofEntry (contents : Contents) (entry : Value) : Except EntryError Source :=
  match contents.collection? entry with
  | some (.mapping fields) => do
    let url ← entryUrl fields
    let name ← entryName fields
    let kind ← entryKind contents fields
    return .ofUrl url name kind
  | _ => .error .notAMapping

/-- The sources of some entries; an error comes with the position of its entry. -/
def ofEntries (contents : Contents) (index : Nat) :
    List Value → Except (Nat × EntryError) (List Source)
  | [] => .ok []
  | entry :: rest =>
    match ofEntry contents entry with
    | .error error => .error (index, error)
    | .ok source => (ofEntries contents (index + 1) rest).map (source :: ·)

/-- What is wrong with a catalog. -/
inductive Error where
  | entry (index : Nat) (error : EntryError)
  | notAList
  | malformed (path : Path)
  | noPath
deriving Repr

namespace Error

/-- The position of the entry that is wrong. -/
def index? : Error → Option Nat
  | entry index _ => some index
  | _ => none

/-- What is said about a catalog. Of a file that is malformed only that is said: the words of the
parser are not told apart. -/
def message : Error → String
  | entry index error => "[entry " ++ toString index ++ "] " ++ error.message
  | notAList => "Sources file must be a YAML list"
  | malformed path => "Invalid YAML in " ++ path.render ++ ": not valid YAML"
  | noPath => "No sources file path configured"

end Error

/-- The sources of a parsed file. A file without a value has none, and pairs are no mappings. -/
def ofDocument (document : Document) : Except Error (List Source) :=
  match document.root, document.contents.collection? document.root with
  | .null, _ => .ok []
  | _, some (.list entries) =>
    (ofEntries document.contents 0 entries).mapError fun (index, error) => .entry index error
  | _, some (.pairs pairs) => if pairs.isEmpty then .ok [] else .error (.entry 0 .notAMapping)
  | _, _ => .error .notAList

/-- The entry of a source. A source without a name has no field for it. -/
def record (source : Source) : List (String × String) :=
  [("url", source.url), ("kind", source.kind.name)] ++
    ((source.name.filter (!·.isEmpty)).map (("name", ·))).toList

/-- The entries of the sources of the user. -/
def records (catalog : Catalog) : List (List (String × String)) :=
  catalog.user.map record

end SdkFeed.Catalog
