import SdkFeed.Load

/-! A load without its states: one attempt at the address of the source, and at most one more at the
address of the index file below it. What an attempt comes to depends only on what is fetched, and
what the load comes to only on its attempts. -/
namespace SdkFeed.Load

open SdkFeed.Feed (Kind)

/-- The address of the first attempt. -/
def Request.address (request : Request) (forceOpen : Bool) : String :=
  fetchUrl forceOpen request.source.url

/-- The address of the second attempt. -/
def Request.fallback (request : Request) (forceOpen : Bool) : String :=
  alternateUrl (request.address forceOpen) request.indexFile

/-- The packages of a document whose root element is the one expected, in listing order. -/
def listing (kind : Kind) (space url : String) (root : Xml.Tree) : List Package :=
  Package.sorted ((Package.entries kind space url root).filterMap Package.Entry.package?)

/-- What an attempt to load a document comes to. -/
inductive Attempt where
  /-- Nothing was fetched. -/
  | unfetched (failure : Fetch.Failure)
  /-- The document declares no version of the family. -/
  | unrecognized
  | invalid (version : Nat) (error : Option String)
  /-- There is nothing to check the document with. -/
  | unchecked (version : Nat) (error : Option String)
  /-- The document is too new, and nothing can be salvaged from it. -/
  | tooNew (version : Nat)
  /-- The document passed the check and still cannot be read. -/
  | unreadable (version : Nat)
  | usable (version : Nat) (isSalvaged : Bool) (packages : List Package)
deriving DecidableEq

namespace Attempt

/-- What a document of a version that is understood comes to. -/
def ofSupported (validator : Schema.Validator) (kind : Kind) (version : Nat) (url : String)
    (bytes : List UInt8) : Except Crash Attempt :=
  match validator.validate ⟨kind, version⟩ url bytes with
  | .error _ => .error .breakdown
  | .ok validation =>
    if validation.isValid then
      match Xml.read bytes with
      | .ok root => .ok (.usable version false (listing kind (kind.family.space version) url root))
      | .error _ => .ok (.unreadable version)
    else if validation.isUnavailable then .ok (.unchecked version validation.error)
    else .ok (.invalid version validation.error)

/-- What a document of a newer version comes to. -/
def ofNewer (kind : Kind) (version : Nat) (url : String) (bytes : List UInt8) : Attempt :=
  match Package.Salvage.ofBytes kind bytes with
  | .ok (some root) => .usable version true (listing kind kind.family.latestSpace url root)
  | _ => .tooNew version

/-- What a document comes to. -/
def ofBytes (validator : Schema.Validator) (kind : Kind) (url : String) (bytes : List UInt8) :
    Except Crash Attempt :=
  match Feed.detectVersion kind bytes with
  | .error (.encoding fault) => .error (.encoding fault)
  | .error _ => .ok .unrecognized
  | .ok version =>
    if kind.family.supports version then ofSupported validator kind version url bytes
    else if kind.family.latest < version then .ok (ofNewer kind version url bytes)
    else .ok .unrecognized

/-- What a fetch comes to. -/
def ofAnswer (validator : Schema.Validator) (kind : Kind) (url : String) :
    Except Fetch.Cause (List UInt8) → Except Crash Attempt
  | .error cause => .ok (.unfetched (Fetch.classify url cause))
  | .ok bytes => ofBytes validator kind url bytes

/-- Whether the index file below the address is worth an attempt. -/
def leadsOn : Attempt → Bool
  | unfetched _ | unrecognized | invalid .. => true
  | _ => false

/-- Whether a document was fetched. -/
def isFetched : Attempt → Bool
  | unfetched _ => false
  | _ => true

/-- Whether the packages of the document can be listed. -/
def isUsable : Attempt → Bool
  | usable .. => true
  | _ => false

/-- The version of the document. -/
def version : Attempt → Nat
  | unfetched _ | unrecognized => 0
  | invalid version _ | unchecked version _ | tooNew version | unreadable version
  | usable version _ _ => version

/-- What is told of an attempt at an address: the error, and its kind. -/
def complaint (hint : Hint) (url : String) : Attempt → Option String × Option ErrorKind
  | unfetched failure => (some (failureTexts failure).1, some (failureTexts failure).2.1)
  | unrecognized =>
    (some ("Failed to validate the XML for the repository at URL '" ++ url ++ "'"),
      some .unrecognizedDocument)
  | invalid _ error => (error, some .documentInvalid)
  | unchecked _ error => (error, some .validatorMissing)
  | tooNew version =>
    (some ("The repository at URL '" ++ url ++ "' uses schema version " ++ toString version ++
      ", which is newer than this version supports. " ++ hint.info), some .unsupportedSchema)
  | unreadable _ => (some "Failed to parse XML document", some .parseFailed)
  | usable _ false _ => (none, none)
  | usable _ true _ => (some hint.info, some .unsupportedSchema)

/-- The error of the check that is known after an attempt, when another one was known before. -/
def checkError (earlier : Option String) : Attempt → Option String
  | invalid _ error | unchecked _ error => error
  | unfetched _ | unrecognized | tooNew _ => earlier
  | unreadable _ | usable .. => none

/-- Whether what is told of a first attempt gives way to what is told of a second one. -/
def outweighs : Attempt → Attempt → Bool
  | _, unfetched _ => true
  | unfetched _, _ | unrecognized, _ | unreadable _, _ => false
  | _, _ => true

/-- An attempt leads on, and the address is not that of an index file already. -/
theorem leadsOn_and {attempt : Attempt} {url file : String} :
    (attempt.leadsOn && !endsIn url file) = true ↔
      attempt.leadsOn = true ∧ endsIn url file = false := by
  rw [Bool.and_eq_true_iff, Bool.not_eq_true']

end Attempt

/-- The attempts of a load. -/
structure Trial where
  first : Attempt
  second? : Option Attempt
deriving DecidableEq

namespace Trial

variable {σ : Type}

/-- The attempts of a load, by what is fetched for them. -/
def ofLoad (fetch : σ → String → Except Fetch.Cause (List UInt8) × σ) (validator : Schema.Validator)
    (request : Request) (forceOpen : Bool) (state : σ) : Except Crash Trial := do
  let kind := request.source.kind
  let url := request.address forceOpen
  let (answer, state) := fetch state url
  let first ← Attempt.ofAnswer validator kind url answer
  if first.leadsOn && !endsIn url request.indexFile then
    let url := request.fallback forceOpen
    let second ← Attempt.ofAnswer validator kind url (fetch state url).1
    return ⟨first, some second⟩
  else return ⟨first, none⟩

/-- The addresses of the attempts. -/
def addresses (trial : Trial) (request : Request) (forceOpen : Bool) : List String :=
  request.address forceOpen :: (trial.second?.map fun _ => request.fallback forceOpen).toList

/-- The attempt that decides what is told of the load, and its address. -/
def decisive (trial : Trial) (request : Request) (forceOpen : Bool) : Attempt × String :=
  match trial.second? with
  | none => (trial.first, request.address forceOpen)
  | some second =>
    if second.outweighs trial.first then (second, request.fallback forceOpen)
    else (trial.first, request.address forceOpen)

/-- The last attempt that fetched a document, or the first attempt. -/
def last (trial : Trial) : Attempt :=
  match trial.second? with
  | none => trial.first
  | some second => if second.isFetched then second else trial.first

/-- Whether the load goes over to the address of the index file. -/
def usesAlternate (trial : Trial) : Bool :=
  trial.second?.any fun second => second.isFetched || !trial.first.isFetched

/-- The error of the check that is known at the end. -/
def checkError (trial : Trial) : Option String :=
  match trial.second? with
  | none => trial.first.checkError none
  | some second => second.checkError (trial.first.checkError none)

/-- The outcome of a load with these attempts. -/
def outcome (trial : Trial) (request : Request) (forceOpen : Bool) : Outcome :=
  let source := request.source
  let (attempt, url) := trial.decisive request forceOpen
  let plain := Source.defaultDescription source.kind source.name source.url
  let failure : Outcome := {
    url := source.url
    state := .failed
    description := plain
    packages := none
    error := (attempt.complaint request.hint url).1
    errorKind := (attempt.complaint request.hint url).2
    validationError := trial.checkError
    version := trial.last.version
    space := none
    usedAlternate := trial.usesAlternate
    needsUpgrade := false }
  match attempt with
  | .usable version isSalvaged packages =>
    { failure with
      url := if trial.usesAlternate then alternateUrl source.url request.indexFile else source.url
      state := .parsed
      description := (if isSalvaged then request.hint.description else plain) ++ "\n" ++
        countSummary packages.length
      packages := some packages
      space := some (if isSalvaged then request.family.latestSpace else request.family.space version)
      needsUpgrade := isSalvaged }
  | _ => failure

end Trial

end SdkFeed.Load
