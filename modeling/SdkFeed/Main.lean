import SdkFeed.Command.Run

/-!
The program. It reads the files that its words name, answers, prints the answer, and writes the
files that changed. Documents come from addresses of local files; other addresses cannot be opened.
-/

namespace SdkFeed.Main

/-- The variables that the settings can come from. -/
def variableNames : List String :=
  ["SDKREPO_FETCH_TIMEOUT", "SDKREPO_USER_AGENT", "SDKREPO_FORCE_HTTP", "SDKREPO_MAX_WORKERS",
    "SDKREPO_SOURCES_PATH"]

/-- The contents of a file, if it can be read. -/
def contents? (name : String) : IO (Option (List UInt8)) := do
  try
    return some (← IO.FS.readBinFile name).toList
  catch _ =>
    return none

/-- The environment of the program. -/
def environment : IO Settings.Environment :=
  variableNames.filterMapM fun name => do
    return (← IO.getEnv name).map (name, ·)

/-- A path without the parts that lead up. -/
def direct (path : Path) : Path :=
  { path with parts := path.parts.foldl (fun parts part =>
      if part == ".." then parts.dropLast else parts ++ [part]) [] }

/-- The files of some names. -/
def readFiles (names : List String) : IO Files :=
  names.foldlM (fun files name => do
    let some bytes ← contents? name | return files
    let path := Path.ofText name
    return (files.put path bytes).put (direct path) bytes) Files.empty

/-- Documents that were read, or could not be read, by their addresses. -/
abbrev Known := List (String × Option (List UInt8))

/-- The scheme of addresses of local files. -/
def fileScheme : String :=
  "file://"

/-- The web as far as it is known. -/
def webOf (known : Known) : Fetch.Web := fun url =>
  match known.lookup url with
  | some (some bytes) => .ok ⟨bytes, none⟩
  | some none => .error (.wrapped (.plain .fileNotFound (.numbered 2 "No such file or directory")))
  | none => .error (.unopened "no connection")

/-- Answer, read the documents that were asked for, and answer again until all of them are known. -/
partial def settle (files : Files) (home : Path) (environment : Settings.Environment)
    (words : List String) (known : Known) : IO Answer := do
  let answer := (Surroundings.mk files (webOf known) environment home).answer words
  let unknown := (answer.sent.map (·.url)).eraseDups.filter fun url =>
    fileScheme.toList.isPrefixOf url.toList && (known.lookup url).isNone
  if unknown.isEmpty then return answer
  let more ← unknown.mapM fun url => do
    return (url, ← contents? (String.ofList (url.toList.drop fileScheme.length)))
  settle files home environment words (more ++ known)

/-- Write the files that are not as they were. -/
def writeChanges (before after : Files) : IO Unit :=
  for (path, bytes) in after.entries do
    if before.file? path != some bytes then
      IO.FS.createDirAll { path with parts := path.parts.dropLast }.render
      IO.FS.writeBinFile path.render ⟨bytes.toArray⟩

/-- Start the program with some words. -/
def start (words : List String) : IO UInt32 := do
  let home := Path.ofText ((← IO.getEnv "HOME").getD "/")
  let environment ← environment
  let sources := (Settings.ofEnvironment home environment).toOption.map (·.sourcesPath.render)
  let files ← readFiles (words ++ sources.toList)
  let answer ← settle files home environment words []
  writeChanges files answer.files
  IO.print answer.output
  if let .crash crash := answer.ending then IO.eprintln crash.message
  return answer.ending.status.toUInt32

end SdkFeed.Main

/-- Run the program. -/
def main (words : List String) : IO UInt32 :=
  SdkFeed.Main.start words
