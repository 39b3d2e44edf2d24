import SdkFeed.Command.Arguments
import SdkFeed.Feed.Kind
import SdkFeed.Load.Outcome

/-!
The commands of the program, and how they are given.
-/

namespace SdkFeed

/-- How a source is loaded and shown. -/
structure LoadOptions where
  kind : Feed.Kind
  forceOpen : Bool
  hint : Load.Hint
  /-- Count the archives for this system. -/
  os : Option String
  asJson : Bool
deriving DecidableEq, Repr

/-- The commands of the program. -/
inductive Command where
  /-- Load a source and show its packages. -/
  | load (url : String) (options : LoadOptions)
  /-- Tell the version that a file declares. -/
  | detect (file : String) (kind : Feed.Kind)
  /-- Check a file against the schema of its version. -/
  | validate (file : String) (kind : Feed.Kind)
  /-- Show all sources. -/
  | listSources (asJson : Bool)
  /-- Register a source. -/
  | addSource (url : String) (name : Option String) (kind : Feed.Kind)
  /-- Take a source away. -/
  | removeSource (url : String)
  /-- Load every source and tell how that went. -/
  | refreshSources (forceOpen : Bool)
deriving DecidableEq, Repr

namespace Command

/-- The systems that archives can be counted for. -/
def systems : List String :=
  ["linux", "macosx", "windows"]

/-- The names of the commands. -/
def names : List String :=
  ["load", "detect", "validate", "sources"]

/-- The kind of source that a flag stands for. -/
def flagKind (isAddon : Bool) : Feed.Kind :=
  if isAddon then .addon else .repository

/-- The command to load a source. -/
def loadOf? (words : List String) : Option Command := do
  let arguments ← Arguments.parse? [.flag "--addon", .flag "--force-http", .flag "--ide-plugin",
    .valued "--os", .flag "--json"] true words
  let [url] := arguments.operands | none
  let os := arguments.value? "--os"
  guard (os.all systems.contains)
  return .load url {
    kind := flagKind (arguments.has "--addon")
    forceOpen := arguments.has "--force-http"
    hint := if arguments.has "--ide-plugin" then .idePlugin else .tools
    os
    asJson := arguments.has "--json" }

/-- The file of a command that looks at one, and the kind of source that it belongs to. -/
def fileOf? (words : List String) : Option (String × Feed.Kind) := do
  let arguments ← Arguments.parse? [.flag "--addon"] true words
  let [file] := arguments.operands | none
  return (file, flagKind (arguments.has "--addon"))

/-- The command to show all sources. -/
def listOf? (words : List String) : Option Command := do
  let arguments ← Arguments.parse? [.flag "--json"] true words
  let [] := arguments.operands | none
  return .listSources (arguments.has "--json")

/-- The command to register a source. -/
def addOf? (words : List String) : Option Command := do
  let arguments ← Arguments.parse? [.valued "--name", .flag "--repository"] true words
  let [url] := arguments.operands | none
  return .addSource url (arguments.value? "--name") (flagKind (!arguments.has "--repository"))

/-- The command to take a source away. -/
def removeOf? (words : List String) : Option Command := do
  let arguments ← Arguments.parse? [] true words
  let [url] := arguments.operands | none
  return .removeSource url

/-- The command to load every source. -/
def refreshOf? (words : List String) : Option Command := do
  let arguments ← Arguments.parse? [.flag "--force-http"] true words
  let [] := arguments.operands | none
  return .refreshSources (arguments.has "--force-http")

/-- A command on the sources of the user. -/
def sourcesOf? (words : List String) : Option Command := do
  let name :: words := (← Arguments.parse? [] false words).operands | none
  match name with
  | "list" => listOf? words
  | "add" => addOf? words
  | "remove" => removeOf? words
  | "refresh" => refreshOf? words
  | _ => none

/-- The command of a name with the given arguments. -/
def ofWords? (name : String) (words : List String) : Option Command :=
  match name with
  | "load" => loadOf? words
  | "detect" => (fileOf? words).map fun (file, kind) => .detect file kind
  | "validate" => (fileOf? words).map fun (file, kind) => .validate file kind
  | "sources" => sourcesOf? words
  | _ => none

end Command

/-- What the program is asked for. The arguments of a command are read later: when the settings are
wrong, that is told first. -/
inductive Invocation where
  | unusable
  | version
  | command (verbose : Bool) (name : String) (words : List String)
deriving DecidableEq, Repr

namespace Invocation

/-- The options of the program itself. -/
def forms : List OptionForm :=
  [.flag "--version", { name := "--verbose", letter := some 'v' }]

/-- Whether words begin with the option that asks for the version. -/
def asksVersion (words : List String) : Bool :=
  (Arguments.parse? forms false words).any (·.has "--version")

/-- What the program is asked for with the given words. What stands where a command is due counts
as options again if it is no command. -/
def ofWords (words : List String) : Invocation :=
  match Arguments.parse? forms false words with
  | none => unusable
  | some arguments =>
    if arguments.has "--version" then version
    else match arguments.operands with
      | [] => unusable
      | name :: words =>
        if Command.names.contains name then command (arguments.has "--verbose") name words
        else if asksVersion (name :: words) then version
        else unusable

end Invocation

end SdkFeed
