import SdkFeed.Feed.Version
import SdkFeed.Fetch.Failure
import SdkFeed.Load.Outcome
import SdkFeed.Package.Salvage
import SdkFeed.Schema.Verdict
import SdkFeed.Source

/-!
One step of a load. A load fetches a document, tells its version, checks it, and reads its
packages; when the address does not lead to a document of the family, it tries the address of the
index file below it, once. The services that fetch and check may have a state of their own, and
each call may change it.
-/

namespace SdkFeed.Load

open SdkFeed.Xml

/-- What a load cannot go on after. -/
inductive Crash where
  /-- The document names an encoding that cannot be used. -/
  | encoding (fault : EncodingFault)
  /-- The check broke down. -/
  | breakdown
deriving DecidableEq, Repr

/-- What fetches documents and checks them. -/
structure Services (σ : Type) where
  fetch : σ → String → Except Fetch.Cause (List UInt8) × σ
  /-- The answer of the check, and the warnings it gives. -/
  validate : σ → Schema.Edition → String → List UInt8 →
    (Except Schema.Breakdown Schema.Validation × List String) × σ

/-- What is to be loaded. -/
structure Request where
  source : Source
  hint : Hint
deriving Repr

namespace Request

/-- The family of the documents that are expected. -/
def family (request : Request) : Feed.Family :=
  request.source.kind.family

/-- The file name of the index. -/
def indexFile (request : Request) : String :=
  request.family.indexFile

end Request

/-- What a load knows on its way. -/
structure Run (σ : Type) where
  services : σ
  url : String
  bytes : List UInt8
  version : Nat
  /-- The document is the second one. -/
  isSecond : Bool
  /-- The address is the one of the index file below the address of the source. -/
  isAlternate : Bool
  document : Option Tree
  /-- The namespace that the packages are to be read in. -/
  space : Option String
  /-- The document is what was salvaged from a newer one. -/
  isSalvaged : Bool
  failure : Option Fetch.Failure
  validationError : Option String
  error : Option String
  errorKind : Option ErrorKind
  packages : Option (List Package)
  description : String
  reports : List Report
  warnings : List String
  /-- The addresses fetched, in order. -/
  calls : List String
  /-- The states entered, in order. -/
  trace : List State

/-- An address with every secure scheme in it made an open one. -/
def openScheme : List Char → List Char
  | 'h' :: 't' :: 't' :: 'p' :: 's' :: ':' :: '/' :: '/' :: rest =>
    "http://".toList ++ openScheme rest
  | c :: rest => c :: openScheme rest
  | [] => []

/-- The address that is fetched for an address. -/
def fetchUrl (forceOpen : Bool) (url : String) : String :=
  if forceOpen then String.ofList (openScheme url.toList) else url

namespace Run

variable {σ : Type}

/-- The beginning of a load. -/
def start (request : Request) (forceOpen : Bool) (services : σ) : Run σ where
  services
  url := fetchUrl forceOpen request.source.url
  bytes := []
  version := 0
  isSecond := false
  isAlternate := false
  document := none
  space := none
  isSalvaged := false
  failure := none
  validationError := none
  error := none
  errorKind := none
  packages := none
  description :=
    Source.defaultDescription request.source.kind request.source.name request.source.url
  reports := [.steps 4]
  warnings := []
  calls := []
  trace := []

/-- Add a report. -/
def report (run : Run σ) (report : Report) : Run σ :=
  { run with reports := run.reports ++ [report] }

/-- Add warnings. -/
def warn (run : Run σ) (warnings : List String) : Run σ :=
  { run with warnings := run.warnings ++ warnings }

/-- Record an error unless an earlier one already tells what is wrong. -/
def softFail (run : Run σ) (kind : ErrorKind) (message : String) : Run σ :=
  if run.error.isNone then { run with error := some message, errorKind := some kind } else run

/-- Whether a different address is left to try. -/
def canRetry (run : Run σ) (request : Request) : Bool :=
  !run.isSecond && !run.isAlternate && !endsIn run.url request.indexFile

/-- Report that the address of the index file worked. -/
def reportAlternate (run : Run σ) : Run σ :=
  if run.isAlternate then run.report (.result ("Repository found at " ++ run.url)) else run

/-- Fetch the document at an address. -/
def fetch (run : Run σ) (services : Services σ) (url : String) :
    Except Fetch.Cause (List UInt8) × Run σ :=
  let (answer, state) := services.fetch run.services url
  (answer, { run with services := state, calls := run.calls ++ [url] })

/-- Fetch the index file below the address, for a second look. What goes wrong here is not told:
it must not hide the error that is the reason for it. -/
def retry (run : Run σ) (services : Services σ) (request : Request) : Run σ × Except Crash State :=
  let url := alternateUrl run.url request.indexFile
  match run.fetch services url with
  | (.error _, run) => (run, .ok .failed)
  | (.ok bytes, run) =>
    ({ run with url, bytes, isAlternate := true, isSecond := true }, .ok .fetched)

end Run

variable {σ : Type}

/-- Fetch the document. If that fails the index file below the address is tried. -/
def onFetching (services : Services σ) (request : Request) (run : Run σ) :
    Run σ × Except Crash State :=
  match run.fetch services run.url with
  | (.ok bytes, run) => ({ run with bytes, failure := none }, .ok .fetched)
  | (.error cause, run) =>
    let run := { run with failure := some (Fetch.classify run.url cause) }
    if !run.isAlternate && !endsIn run.url request.indexFile then
      ({ run with url := alternateUrl run.url request.indexFile, isAlternate := true },
        .ok .fetching)
    else (run, .ok .fetchFailed)

/-- Tell the version of the document. -/
def onDetecting (request : Request) (run : Run σ) : Run σ × Except Crash State :=
  match Feed.detectVersion request.source.kind run.bytes with
  | .error (.encoding fault) => (run, .error (.encoding fault))
  | .error _ => (run, .ok .noVersion)
  | .ok version =>
    let run := { run with version }
    if request.family.supports version then (run, .ok .versionSupported)
    else if request.family.latest < version then (run, .ok .versionTooNew)
    else (run, .ok .noVersion)

/-- The document is none of the family. -/
def onNoVersion (services : Services σ) (request : Request) (run : Run σ) :
    Run σ × Except Crash State :=
  let run := run.softFail .unrecognizedDocument
    ("Failed to validate the XML for the repository at URL '" ++ run.url ++ "'")
  if run.canRetry request then run.retry services request else (run, .ok .failed)

/-- Check the document. -/
def onValidating (services : Services σ) (request : Request) (run : Run σ) :
    Run σ × Except Crash State :=
  let ((answer, warnings), state) := services.validate run.services
    ⟨request.source.kind, run.version⟩ run.url run.bytes
  let run := { run with services := state }.warn warnings
  match answer with
  | .error _ => (run, .error .breakdown)
  | .ok validation =>
    if validation.isValid then
      ({ run with space := validation.space, validationError := none }, .ok .validated)
    else
      ({ run with validationError := validation.error },
        .ok (if validation.isUnavailable then .validatorMissing else .validationFailed))

/-- The document is not valid. This is told in place of any earlier error. -/
def onInvalid (services : Services σ) (request : Request) (run : Run σ) :
    Run σ × Except Crash State :=
  let run := { run with error := run.validationError, errorKind := some .documentInvalid }
  if run.canRetry request then run.retry services request else (run, .ok .failed)

/-- The document is valid: read it. -/
def onValid (run : Run σ) : Run σ × Except Crash State :=
  match Xml.read run.bytes with
  | .error (.encoding fault) => (run, .error (.encoding fault))
  | .error error =>
    let message := "Failed to parse XML document"
    ((run.warn ["Validated document from " ++ run.url ++ " could not be parsed: " ++
      error.message]).report (.result message) |>.softFail .parseFailed message, .ok .failed)
  | .ok document =>
    ({ run with document := some document, error := none, errorKind := none }.reportAlternate,
      .ok .parsing)

/-- The document is too new: salvage the tools. -/
def onProbing (request : Request) (run : Run σ) : Run σ × Except Crash State :=
  match Package.Salvage.ofBytes request.source.kind run.bytes with
  | .error (.encoding fault) => (run, .error (.encoding fault))
  | .error _ | .ok none => (run, .ok .probeFailed)
  | .ok (some document) =>
    ({ run with
      document := some document
      space := some request.family.latestSpace
      isSalvaged := true
      validationError := none
      error := none
      errorKind := none }, .ok .probed)

/-- Nothing could be salvaged. -/
def onProbeFailed (request : Request) (run : Run σ) : Run σ × Except Crash State :=
  ({ run with
    error := some ("The repository at URL '" ++ run.url ++ "' uses schema version " ++
      toString run.version ++ ", which is newer than this version supports. " ++ request.hint.info)
    errorKind := some .unsupportedSchema }, .ok .failed)

/-- Read the packages. -/
def onParsing (request : Request) (run : Run σ) : Run σ × Except Crash State :=
  let run := ((run.report (.advance 1)).report (.description "Parse XML")).report (.advance 1)
  match run.document with
  | none => (run, .ok .failed)
  | some document =>
    let index := Package.Index.ofDocument request.source.kind (run.space.getD "None") run.url
      document
    let run := { run with reports := run.reports ++ index.reports }.warn index.warnings
    match index.packages with
    | none =>
      let message := "Failed to parse XML document"
      ((run.report (.result message)).softFail .parseFailed message, .ok .failed)
    | some packages =>
      let run := if run.isSalvaged then
          let info := request.hint.info
          { run with
            description := request.hint.description
            error := some (match run.error with
              | none => info
              | some error => error ++ ". " ++ info)
            errorKind := some .unsupportedSchema }
        else run
      ({ run with
        packages := some packages
        description := run.description ++ "\n" ++ countSummary packages.length }.report
          (.advance 1), .ok .parsed)

/-- One step of a load. The final states lead nowhere. -/
def step (services : Services σ) (request : Request) (run : Run σ) :
    State → Run σ × Except Crash State
  | .start =>
    ((run.report (.description ("Fetching " ++ run.url))).report (.advance 1), .ok .fetching)
  | .fetching => onFetching services request run
  | .fetchFailed => (run, .ok .failed)
  | .fetched =>
    (if run.isSecond then run else run.report (.description "Validate XML"), .ok .detectingVersion)
  | .detectingVersion => onDetecting request run
  | .noVersion => onNoVersion services request run
  | .versionSupported => (run, .ok .validating)
  | .versionTooNew => (run, .ok .probing)
  | .validating => onValidating services request run
  | .validationFailed => onInvalid services request run
  | .validatorMissing =>
    ({ run with error := run.validationError, errorKind := some .validatorMissing }, .ok .failed)
  | .validated => onValid run
  | .probing => onProbing request run
  | .probeFailed => onProbeFailed request run
  | .probed => (run.reportAlternate, .ok .parsing)
  | .parsing => onParsing request run
  | .parsed => (run, .ok .parsed)
  | .failed => (run, .ok .failed)

end SdkFeed.Load
