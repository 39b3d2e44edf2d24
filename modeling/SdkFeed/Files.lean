import SdkFeed.Path

/-!
A store of files. Directories are those that were made and those that have files below them.
Writing a file makes the directories above it, one by one, and those that were made stay even if
the file cannot be written. Main statement: a file reads as what was written last.
-/

namespace SdkFeed

/-- Files with their contents, and directories. -/
structure Files where
  entries : List (Path × List UInt8)
  /-- The directories that were made. -/
  made : List Path
deriving Repr

namespace Files

/-- What a path leads to. -/
inductive Found where
  | nothing
  | directory
  | file (bytes : List UInt8)
deriving DecidableEq, Repr

/-- Why a file cannot be read or written. -/
inductive Error where
  /-- The path leads to a directory. -/
  | directory
  /-- A file stands where the directory of the path would be. -/
  | occupied
  /-- A file stands further up in the path. -/
  | throughFile
  /-- A directory of the path is missing. -/
  | missing
  /-- The path, or a part of it, has too many bytes. -/
  | tooLong
  /-- The path has a character of code zero. -/
  | zeroCode
deriving DecidableEq, Repr

/-- A store without files. -/
def empty : Files :=
  ⟨[], []⟩

/-- The file at a place. -/
def file? (files : Files) (path : Path) : Option (List UInt8) :=
  files.entries.lookup path

/-- Whether a place is a directory: a root, the working directory or one above it, a directory that
was made, or one with a file below it. -/
def isDirectory (files : Files) (path : Path) : Bool :=
  path.parts.all (· == "..") || files.made.contains path || files.entries.any fun (other, _) =>
    other.root == path.root && path.parts.isPrefixOf other.parts &&
      path.parts.length < other.parts.length

/-- The place that a part of a path leads to from a directory. Nothing is above a root. -/
def enter (place : Path) (part : String) : Except Error Path :=
  if part == ".." then
    if !(place.parts.all (· == "..")) then .ok { place with parts := place.parts.dropLast }
    else if place.root.isEmpty then .ok (place.append [part])
    else .ok place
  else if Path.partLimit < part.utf8ByteSize then .error .tooLong
  else .ok (place.append [part])

/-- Follow the parts of a path. All places on the way have to be directories. -/
def follow (files : Files) (place : Path) : List String → Except Error Path
  | [] => .ok place
  | part :: rest =>
    if (files.file? place).isSome then .error .throughFile
    else if !files.isDirectory place then .error .missing
    else do files.follow (← enter place part) rest

/-- The place that a path leads to. -/
def place (files : Files) (path : Path) : Except Error Path :=
  if path.hasZeroCode then .error .zeroCode
  else if path.isTooLong then .error .tooLong
  else files.follow { path with parts := [] } path.parts

/-- What a path leads to. Only a path that is too long is an error. -/
def find (files : Files) (path : Path) : Except Error Found :=
  match files.place path with
  | .error .tooLong => .error .tooLong
  | .error _ => .ok .nothing
  | .ok place =>
    match files.file? place with
    | some bytes => .ok (.file bytes)
    | none => .ok (if files.isDirectory place then .directory else .nothing)

/-- Put a file at a place, instead of the one that was there. -/
def put (files : Files) (path : Path) (bytes : List UInt8) : Files :=
  { files with
    entries := (path, bytes) :: files.entries.filter fun (other, _) => other != path }

/-- Make a directory in a directory that is there. One that is there already counts as made. -/
def makeDirectory (files : Files) (path : Path) : Except Error Files := do
  let place ← files.place path
  if (files.file? place).isSome then throw .occupied
  else if files.isDirectory place then return files
  else return { files with made := place :: files.made }

/-- Make a directory and those above it that are missing. The parts of its path are given from the
last one on. What was made stays made after an error. -/
def makeAll (files : Files) (root : String) : List String → Files × Except Error Unit
  | [] => (files, .ok ())
  | part :: above =>
    let path : Path := ⟨root, (part :: above).reverse⟩
    let attempt (files : Files) : Files × Except Error Unit :=
      match files.makeDirectory path with
      | .ok files => (files, .ok ())
      | .error error => (files, .error error)
    match files.makeDirectory path with
    | .error .missing =>
      match files.makeAll root above with
      | (files, .ok ()) => attempt files
      | (files, .error error) => (files, .error error)
    | _ => attempt files

/-- Write a file into a directory that is there. -/
def overwrite (files : Files) (path : Path) (bytes : List UInt8) : Except Error Files := do
  let place ← files.place path
  if files.isDirectory place then throw .directory
  else return files.put place bytes

/-- Write a file, in directories that are made for it. -/
def write (files : Files) (path : Path) (bytes : List UInt8) : Files × Except Error Unit :=
  match files.makeAll path.root path.parts.dropLast.reverse with
  | (files, .error error) => (files, .error error)
  | (files, .ok ()) =>
    match files.overwrite path bytes with
    | .ok files => (files, .ok ())
    | .error error => (files, .error error)

theorem file_put (files : Files) (path : Path) (bytes : List UInt8) :
    (files.put path bytes).file? path = some bytes := by
  simp [put, file?]

end Files

end SdkFeed
