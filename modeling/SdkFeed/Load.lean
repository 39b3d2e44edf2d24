import SdkFeed.Load.Run

/-!
Loading a source: the steps of a load from its start to a final state, and the outcome that the
final state gives. Main definitions: `Load.load` and `Source.apply`.
-/

namespace SdkFeed.Load

variable {σ : Type}

/-- The greatest number of steps of a load. -/
def stepLimit : Nat :=
  32

/-- Take up to so many steps; a load that is over, or crashed, takes none. -/
def drive (services : Services σ) (request : Request) :
    Nat → State → Run σ → Run σ × Except Crash State
  | 0, state, run => (run, .ok state)
  | steps + 1, state, run =>
    if state.isFinal then (run, .ok state)
    else match step services request run state with
      | (run, .error crash) => (run, .error crash)
      | (run, .ok next) =>
        drive services request steps next { run with trace := run.trace ++ [next] }

/-- What is told about a failed fetch: the error, its kind, and the reason in reports. -/
def failureTexts : Fetch.Failure → String × ErrorKind × String
  | .notFound _ => ("Failed to fetch URL: File not found", .fetchNotFound, "File not found")
  | .insecure _ _ =>
    ("Failed to fetch URL: HTTPS SSL error", .fetchInsecure,
      "HTTPS SSL error. You might want to force download through HTTP in the settings.")
  | .broken _ reason => ("Failed to fetch URL: " ++ reason, .fetchBroken, reason)

/-- A load that is not over yet is given up. -/
def giveUp (request : Request) (run : Run σ) (state : State) : Run σ × State :=
  if state.isFinal then (run, state)
  else
    let url := request.source.url
    ((run.warn ["Load of " ++ url ++ " stopped in state " ++ state.logName]).softFail .parseFailed
      ("Loading " ++ url ++ " did not complete"), .failed)

/-- A text that is there and not empty. -/
def nonempty (text : Option String) : Option String :=
  text.filter (!·.isEmpty)

/-- Tell about a failed fetch in place of any other error. -/
def settleFailure (run : Run σ) : Run σ :=
  match run.failure with
  | none => run
  | some failure =>
    let (message, kind, reason) := failureTexts failure
    { run.report (.result ("Failed to fetch URL " ++ run.url ++ ", reason: " ++ reason)) with
      error := some (message ++ ((nonempty run.validationError).map ("\n" ++ ·)).getD "")
      errorKind := some kind }

/-- The outcome of a load that is over. -/
def finish (request : Request) (run : Run σ) (state : State) : Run σ × Outcome :=
  let run := settleFailure run
  let run := match nonempty run.validationError with
    | none => run
    | some error => run.report (.result error)
  let isSuccess := state == .parsed
  let url := request.source.url
  (run, {
    url := if isSuccess && run.isAlternate then alternateUrl url request.indexFile else url
    state
    description := run.description
    packages := if isSuccess then run.packages else none
    error := run.error
    errorKind := run.errorKind
    validationError := run.validationError
    version := run.version
    space := if isSuccess then run.space else none
    usedAlternate := run.isAlternate
    needsUpgrade := run.isSalvaged })

/-- Load a source, in at most so many steps. The source stays as it is. -/
def loadWithin (steps : Nat) (services : Services σ) (request : Request) (forceOpen : Bool)
    (state : σ) : Run σ × Except Crash Outcome :=
  match drive services request steps .start (.start request forceOpen state) with
  | (run, .error crash) => (run, .error crash)
  | (run, .ok last) =>
    let (run, last) := giveUp request run last
    let (run, outcome) := finish request run last
    (run, .ok outcome)

/-- Load a source. -/
def load (services : Services σ) (request : Request) (forceOpen : Bool) (state : σ) :
    Run σ × Except Crash Outcome :=
  loadWithin stepLimit services request forceOpen state

/-- Services that check documents with a given validator. -/
def Services.withValidator (fetch : σ → String → Except Fetch.Cause (List UInt8) × σ)
    (validator : Schema.Validator) : Services σ where
  fetch
  validate state edition url bytes :=
    ((validator.validate edition url bytes, validator.warnings edition), state)

end SdkFeed.Load

namespace SdkFeed.Source

/-- Keep the outcome of a load with its source. Only a load that brought packages replaces those
that are there. -/
def apply (source : Source) (outcome : Load.Outcome) : Source :=
  { source with
    url := outcome.url
    description := outcome.description
    fetchError := outcome.error
    packages := outcome.packages <|> source.packages }

end SdkFeed.Source
