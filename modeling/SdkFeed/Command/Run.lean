import SdkFeed.Command.Answer
import SdkFeed.Command.Basic
import SdkFeed.Command.Listing
import SdkFeed.Monitor

/-!
What the commands do. Main definitions: `Command.run`, and `Surroundings.answer`, which takes the
words that the program is started with.
-/

namespace SdkFeed

open Console

/-- The services of a load: fetches go over the web, and every request is kept. -/
def webServices (settings : Settings) (web : Fetch.Web) : Load.Services (List Fetch.Sent) :=
  .withValidator (fun sent url =>
    let (answer, more) := Fetch.fetch settings web url
    (answer.mapError Fetch.FetchError.cause, sent ++ more)) .standard

namespace Command

/-- The contents of a file that is named by an argument, and its path. A name that ends like the
one of a directory names no file, and a name with a character of code zero is an error. -/
def fileAt (files : Files) (name : String) : Except Files.Error (Option (Path × List UInt8)) :=
  let path := Path.ofText name
  if name.toList.contains '\x00' then .error .zeroCode
  else match (Path.splitParts [] name.toList).getLast?, files.find path with
    | some "", _ | some ".", _ => .ok none
    | _, .ok (.file bytes) => .ok (some (path, bytes))
    | _, _ => .ok none

/-- Go on with a file that is named by an argument. -/
def withFile (files : Files) (name : String) (next : Path → List UInt8 → Answer) : Answer :=
  match fileAt files name with
  | .ok (some (path, bytes)) => next path bytes
  | .ok none => .keeping files "" .usage
  | .error error => .crashed files (.file (.files error))

/-- The version that a file declares. -/
def versionOf (kind : Feed.Kind) (bytes : List UInt8) : Except Load.Crash Nat :=
  match Feed.detectVersion kind bytes with
  | .ok version => .ok version
  | .error (.encoding fault) => .error (.encoding fault)
  | .error _ => .ok 0

/-- What is told about the version that a file declares. -/
def detectAnswer (files : Files) (kind : Feed.Kind) (path : Path) (version : Nat) : Answer :=
  if version == 0 then
    .keeping files (say .red ("No " ++ kind.family.root ++ " schema version found in " ++
      path.render)) .failure
  else
    let support := if kind.family.supports version then "supported" else "newer than supported"
    .keeping files (print ("Schema version " ++ toString version ++ " (" ++ support ++ ")") ++
      say .dim (kind.family.space version)) .success

/-- Tell the version that a file declares. -/
def detectFile (files : Files) (kind : Feed.Kind) (path : Path) (bytes : List UInt8) : Answer :=
  match versionOf kind bytes with
  | .error crash => .crashed files (.load crash)
  | .ok version => detectAnswer files kind path version

/-- What a check of a file finds. -/
inductive Check where
  /-- There is no schema of this version. -/
  | unsupported (version : Nat)
  | checked (validation : Schema.Validation)
deriving Repr

/-- Check the contents of a file against the schema of the version that it declares. -/
def check (kind : Feed.Kind) (name : String) (bytes : List UInt8) : Except Load.Crash Check := do
  let version ← versionOf kind bytes
  if !kind.family.supports version then return .unsupported version
  match Schema.Validator.standard.validate ⟨kind, version⟩ name bytes with
  | .ok validation => return .checked validation
  | .error _ => .error .breakdown

/-- Check a file. -/
def validateFile (files : Files) (kind : Feed.Kind) (path : Path) (bytes : List UInt8) : Answer :=
  match check kind path.render bytes with
  | .error crash => .crashed files (.load crash)
  | .ok (.unsupported version) =>
    .keeping files (say .red ("Unsupported or missing schema version (" ++ toString version ++
      ") in " ++ path.render)) .failure
  | .ok (.checked validation) =>
    if validation.isValid then
      .keeping files (print (styled .green "✓ Valid" ++ " " ++ validation.space.getD "None"))
        .success
    else
      .keeping files (say .red ((Load.nonempty validation.error).getD "Validation failed"))
        .failure

/-- Load a source and show what comes of it. The reports appear as the load goes on, also if it does
not come to an end. -/
def loadUrl (around : Surroundings) (settings : Settings) (url : String) (options : LoadOptions) :
    Answer :=
  let source := Source.ofUrl url none options.kind
  let (run, result) := Load.load (webServices settings around.web) ⟨source, options.hint⟩
    (options.forceOpen || settings.forceOpen) []
  let reported := if options.asJson then "" else consoleText settings.verbose run.reports
  let (shown, ending) := match result with
    | .error crash => ("", .crash (.load crash))
    | .ok outcome =>
      (if options.asJson then
          (outcome.toJson options.os (Record.ofReports run.reports)).render ++ "\n"
        else outcome.print options.os,
        if outcome.isSuccess then .success else .failure)
  { output := reported ++ shown, ending, files := around.files, sent := run.services }

/-- Go on with the catalog of the user; tell what is wrong with it if there is none. The path in
the message is read as markup. -/
def withCatalog (files : Files) (path : Path) (next : Catalog → Answer) : Answer :=
  match Catalog.load files path true with
  | .ok catalog => next catalog
  | .error (.catalog error) =>
    match print? ("[red]Invalid sources file " ++ path.render ++ ":[/red] " ++
        escape error.message) with
    | some output => .keeping files output .failure
    | none => .crashed files .markup
  | .error error => .crashed files (.file error)

/-- Write a catalog, and say so. -/
def saveCatalog (files : Files) (path : Path) (catalog : Catalog) (message : String) : Answer :=
  match catalog.save files (some path) with
  | (files, .ok _) => .keeping files (say .green message) .success
  | (files, .error error) => .crashed files (.file error)

/-- Show all sources. -/
def listAnswer (files : Files) (path : Path) (asJson : Bool) (catalog : Catalog) : Answer :=
  let output :=
    if asJson then (JsonValue.list (catalog.sources.map Source.toJson)).render ++ "\n"
    else catalog.table.print ++ print ("\n" ++ styled .dim ("Sources file: " ++ path.render))
  .keeping files output .success

/-- Register a source. -/
def addAnswer (files : Files) (path : Path) (source : Source) (catalog : Catalog) : Answer :=
  if catalog.contains source then
    .keeping files (say .yellow ("Source already registered: " ++ source.url)) .success
  else saveCatalog files path (catalog.add source) ("✓ Added " ++ source.url)

/-- Take a source away. -/
def removeAnswer (files : Files) (path : Path) (url : String) (catalog : Catalog) : Answer :=
  if (catalog.removable? url).isNone then
    .keeping files (say .red ("No user source with URL " ++ url)) .failure
  else saveCatalog files path (catalog.remove url) ("✓ Removed " ++ url)

/-- The loads that came to an end. -/
def outcomes (visits : List Catalog.Visit) : List (Source × Load.Outcome) :=
  visits.filterMap fun visit => visit.result.toOption.map (visit.source, ·)

/-- Load every source and tell how that went. -/
def refreshAnswer (around : Surroundings) (settings : Settings) (forceOpen : Bool)
    (catalog : Catalog) : Answer :=
  let done := catalog.refresh (webServices settings around.web)
    (forceOpen || settings.forceOpen) []
  let visits := outcomes done.visits
  let (output, ending) := match Catalog.crash? done.visits with
    | some crash => ("", .crash (.load crash))
    | none => ((Catalog.refreshTable visits).print,
        if visits.all fun (_, outcome) => outcome.isSuccess then .success else .failure)
  { output, ending, files := around.files, sent := done.services }

/-- What a command does. -/
def run (around : Surroundings) (settings : Settings) : Command → Answer
  | load url options => loadUrl around settings url options
  | detect file kind => withFile around.files file (detectFile around.files kind)
  | validate file kind => withFile around.files file (validateFile around.files kind)
  | listSources asJson =>
    withCatalog around.files settings.sourcesPath
      (listAnswer around.files settings.sourcesPath asJson)
  | addSource url name kind =>
    withCatalog around.files settings.sourcesPath
      (addAnswer around.files settings.sourcesPath (.ofUrl url name kind))
  | removeSource url =>
    withCatalog around.files settings.sourcesPath
      (removeAnswer around.files settings.sourcesPath url)
  | refreshSources forceOpen =>
    withCatalog around.files settings.sourcesPath (refreshAnswer around settings forceOpen)

end Command

namespace Surroundings

/-- Run a command with the settings that the environment makes. -/
def runNamed (around : Surroundings) (verbose : Bool) (name : String) (words : List String) :
    Answer :=
  match Settings.ofEnvironment around.home around.environment with
  | .error .unknownHome => .crashed around.files (.settings .unknownHome)
  | .error error =>
    .keeping around.files (print (styled .red "Configuration error:" ++ " " ++
      escape error.message)) .failure
  | .ok settings =>
    match Command.ofWords? name words with
    | none => .keeping around.files "" .usage
    | some command => command.run around { settings with verbose }

/-- The answer of the program to the words that it is started with. -/
def answer (around : Surroundings) (words : List String) : Answer :=
  match Invocation.ofWords words with
  | .unusable => .keeping around.files "" .usage
  | .version =>
    .keeping around.files ("cli, version " ++ Settings.programVersion ++ "\n") .success
  | .command verbose name words => around.runNamed verbose name words

end Surroundings

end SdkFeed
