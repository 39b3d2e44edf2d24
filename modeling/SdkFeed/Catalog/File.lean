import SdkFeed.Catalog.Entry
import SdkFeed.Files
import SdkFeed.Text.Utf8
import SdkFeed.Yaml.Document
import SdkFeed.Yaml.Printer

/-!
The file of a catalog. A file that is not there stands for a catalog without sources of the user.
-/

namespace SdkFeed.Catalog

/-- Why a file gives no catalog, or a catalog no file. -/
inductive FileError where
  | catalog (error : Error)
  /-- A value in the file cannot be worked out. -/
  | value (fault : Yaml.Fault)
  /-- The file is no text. -/
  | undecodable
  | files (error : Files.Error)
deriving Repr

/-- An error in a file. A kind that cannot be shown is a value that cannot be worked out. -/
def FileError.ofError : Error → FileError
  | .entry _ (.unshownKind fault) => value fault
  | error => catalog error

/-- The sources of the user in the contents of a file. -/
def parse (path : Path) (bytes : List UInt8) : Except FileError (List Source) := do
  let some chars := Text.decodeUtf8? bytes | .error .undecodable
  match Yaml.Document.ofText (String.ofList chars) with
  | .error .malformed => .error (.catalog (.malformed path))
  | .error fault => .error (.value fault)
  | .ok document => (ofDocument document).mapError .ofError

/-- The catalog that a file keeps. -/
def load (files : Files) (path : Path) (includeBuiltin : Bool) : Except FileError Catalog :=
  match files.find path with
  | .error error => .error (.files error)
  | .ok .nothing => .ok (fresh (some path) includeBuiltin)
  | .ok .directory => .error (.files .directory)
  | .ok (.file bytes) => (parse path bytes).map (ofSources (some path) includeBuiltin)

/-- The contents of the file of a catalog. -/
def text (catalog : Catalog) : String :=
  Yaml.renderRecords catalog.records

/-- Write a catalog to a file, which is its file from then on. Without a path the file is the one
of the catalog. -/
def save (catalog : Catalog) (files : Files) (path : Option Path) :
    Files × Except FileError Catalog :=
  match path <|> catalog.path with
  | none => (files, .error (.catalog .noPath))
  | some path =>
    match files.write path catalog.text.toUTF8.toList with
    | (files, .ok ()) => (files, .ok { catalog with path := some path })
    | (files, .error error) => (files, .error (.files error))

end SdkFeed.Catalog
