import SdkFeed.Proofs.Fetch.Classification
import SdkFeed.Proofs.Load.Length
import SdkFeed.Proofs.Load.Settling
import SdkFeed.Proofs.Package.Accounting
import SdkFeed.Proofs.Package.Completeness

/-! What a load tells while it goes on. In each of its states the reports so far are known: those of the
first fetch, one that a document is checked, and behind a document that can be read those of its
packages; and a load that fails adds one line to them at most. -/
namespace SdkFeed.Schema

theorem Validation.heading_ne_empty (url : String) : Validation.heading url ≠ "" :=
  Text.append_ne_empty (Text.append_ne_empty (by decide))

/-- A document that is not valid comes with words. -/
theorem Validator.validate_error_ne_empty {validator : Validator} {edition : Edition} {url : String}
    {bytes : List UInt8} {validation : Validation}
    (hAnswer : validator.validate edition url bytes = .ok validation) :
    validation.error ≠ some "" := by
  have hFailure (line : Nat) (message : String) : (Validation.failure url line message).error ≠ some "" :=
    fun hNone => Text.append_ne_empty (Text.append_ne_empty (Text.append_ne_empty
      (Text.append_ne_empty (Validation.heading_ne_empty url)))) (Option.some.inj hNone)
  rw [validate] at hAnswer
  split at hAnswer
  · obtain rfl := Except.ok.inj hAnswer
    intro hNone
    exact Text.append_ne_empty (Text.append_ne_empty (Validation.heading_ne_empty url))
      (Option.some.inj hNone)
  · cases hJudge : edition.judge bytes with
    | error breakdown => rw [hJudge] at hAnswer; cases hAnswer
    | ok verdict =>
        rw [hJudge] at hAnswer
        obtain rfl := Except.ok.inj hAnswer
        cases verdict with
        | valid => exact (Option.some_ne_none "").symm
        | notWellFormed => exact hFailure _ _
        | invalid violation => exact hFailure _ _

end SdkFeed.Schema

namespace SdkFeed.Load

section Answers

variable {σ : Type}

/-- The answers to some fetches, one after the other. -/
def answersTo (fetch : σ → String → Except Fetch.Cause (List UInt8) × σ) :
    σ → List String → List (Except Fetch.Cause (List UInt8))
  | _, [] => []
  | state, url :: later => (fetch state url).1 :: answersTo fetch (fetch state url).2 later

/-- The state that some fetches leave. -/
def stateAfter (fetch : σ → String → Except Fetch.Cause (List UInt8) × σ) : σ → List String → σ
  | state, [] => state
  | state, url :: later => stateAfter fetch (fetch state url).2 later

variable {fetch : σ → String → Except Fetch.Cause (List UInt8) × σ} {state later : σ}
  {urls : List String} {url : String} {answer : Except Fetch.Cause (List UInt8)}

/-- One more fetch adds its answer. -/
theorem answersTo_append (hFetch : fetch (stateAfter fetch state urls) url = (answer, later)) :
    answersTo fetch state (urls ++ [url]) = answersTo fetch state urls ++ [answer] := by
  induction urls generalizing state with
  | nil =>
      have hAnswer : (fetch state url).1 = answer := congrArg Prod.fst hFetch
      simp [answersTo, hAnswer]
  | cons first rest ih => simp [answersTo, ih hFetch]

theorem stateAfter_append (hFetch : fetch (stateAfter fetch state urls) url = (answer, later)) :
    stateAfter fetch state (urls ++ [url]) = later := by
  induction urls generalizing state with
  | nil => exact congrArg Prod.snd hFetch
  | cons first rest ih => exact ih hFetch

end Answers

/-- The states in which a document is looked at, or has turned out to be of no use. -/
def State.looking : List State :=
  [detectingVersion, noVersion, versionTooNew, probing, validationFailed, validatorMissing, probeFailed]

/-- What is told before a document has been fetched. -/
def openingReports (address : String) : List Report :=
  [.steps 4, .description ("Fetching " ++ address), .advance 1]

/-- What is told before a document has been checked. -/
def checkingReports (address : String) : List Report :=
  openingReports address ++ [.description "Validate XML"]

/-- What is told of the address of the index file, if the document is there. -/
def alternateResults (isAlternate : Bool) (url : String) : List String :=
  if isAlternate then ["Repository found at " ++ url] else []

/-- A tree is that of a document, or salvaged from it. -/
def IsTreeOf (kind : Feed.Kind) (bytes : List UInt8) (root : Xml.Tree) : Prop :=
  Xml.read bytes = .ok root ∨ Package.Salvage.ofBytes kind bytes = .ok (some root)

variable {σ : Type} (fetch : σ → String → Except Fetch.Cause (List UInt8) × σ)
  (validator : Schema.Validator) (request : Request) (forceOpen : Bool) (state : σ)

/-- The services of a run are as its fetches left them, and its address is one of the two. -/
structure IsPlaced (run : Run σ) : Prop where
  services : run.services = stateAfter fetch state run.calls
  url : run.url =
    if run.isAlternate then request.fallback forceOpen else request.address forceOpen

/-- No document has been fetched so far. -/
structure IsWaiting (run : Run σ) : Prop extends IsPlaced fetch request forceOpen state run where
  reports : run.reports = openingReports (request.address forceOpen)
  validationError : run.validationError = none
  answers : ∀ answer ∈ answersTo fetch state run.calls, ∃ cause, answer = .error cause

/-- A document has been fetched, and what it is has not been told so far. -/
structure IsLooking (run : Run σ) : Prop extends IsPlaced fetch request forceOpen state run where
  reports : run.reports = checkingReports (request.address forceOpen)
  failure : run.failure = none
  validationError : run.validationError ≠ some ""
  answer : (answersTo fetch state run.calls).getLast? = some (.ok run.bytes)

/-- The packages of a document are to be read in a namespace. -/
structure IsReading (run : Run σ) (root : Xml.Tree) (space : String) : Prop
    extends IsPlaced fetch request forceOpen state run where
  failure : run.failure = none
  validationError : run.validationError = none
  answer : (answersTo fetch state run.calls).getLast? = some (.ok run.bytes)
  isTree : IsTreeOf request.source.kind run.bytes root
  isNamed : Package.isNamed root space request.family.root = true
  space : run.space = some space

/-- What a run has told when it enters a state. -/
inductive IsTelling : State → Run σ → Prop where
  | start : IsTelling .start (.start request forceOpen state)
  | fetching {run : Run σ} (hWaiting : IsWaiting fetch request forceOpen state run)
      (hFirst : run.isSecond = false) : IsTelling .fetching run
  | unfetched {next : State} {run : Run σ} {cause : Fetch.Cause}
      (hState : next = .fetchFailed ∨ next = .failed)
      (hWaiting : IsWaiting fetch request forceOpen state run)
      (hUrl : run.calls.getLast? = some run.url)
      (hAnswer : (answersTo fetch state run.calls).getLast? = some (.error cause))
      (hFailure : run.failure = some (Fetch.classify run.url cause)) : IsTelling next run
  /-- It will be told that the document is checked, unless that has been done. -/
  | fetched {run : Run σ} (hLooking : IsLooking fetch request forceOpen state
      { run with
        reports := if run.isSecond then run.reports
          else run.reports ++ [.description "Validate XML"] }) : IsTelling .fetched run
  | looking {next : State} {run : Run σ}
      (hState : next ∈ State.looking) (hLooking : IsLooking fetch request forceOpen state run) :
      IsTelling next run
  | recognized {next : State} {run : Run σ} (hState : next = .versionSupported ∨ next = .validating)
      (hLooking : IsLooking fetch request forceOpen state run)
      (hVersion : Feed.detectVersion request.source.kind run.bytes = .ok run.version)
      (hSupports : request.family.supports run.version = true) : IsTelling next run
  | validated {run : Run σ} (hLooking : IsLooking fetch request forceOpen state run)
      (hVersion : Feed.detectVersion request.source.kind run.bytes = .ok run.version)
      (hPasses : validator.Passes ⟨request.source.kind, run.version⟩ run.url run.bytes)
      (hSupports : request.family.supports run.version = true)
      (hSpace : run.space = some (request.family.space run.version))
      (hValid : run.validationError = none) : IsTelling .validated run
  | probed {run : Run σ} {root : Xml.Tree} {space : String}
      (hReading : IsReading fetch request forceOpen state run root space)
      (hDocument : run.document = some root)
      (hReports : run.reports = checkingReports (request.address forceOpen)) : IsTelling .probed run
  | parsing {run : Run σ} {root : Xml.Tree} {space : String}
      (hReading : IsReading fetch request forceOpen state run root space)
      (hDocument : run.document = some root)
      (hReports : run.reports = checkingReports (request.address forceOpen) ++
        (alternateResults run.isAlternate run.url).map .result) : IsTelling .parsing run
  | parsed {run : Run σ} {root : Xml.Tree} {space : String}
      (hReading : IsReading fetch request forceOpen state run root space)
      (hPackages : run.packages = (Package.Index.ofDocument request.source.kind space run.url root).packages)
      (hReports : run.reports = checkingReports (request.address forceOpen) ++
        (alternateResults run.isAlternate run.url).map .result ++
        [.advance 1, .description "Parse XML", .advance 1] ++
        (Package.Index.ofDocument request.source.kind space run.url root).reports ++ [.advance 1]) :
      IsTelling .parsed run
  | refused {run : Run σ} (hReports : run.reports = checkingReports (request.address forceOpen))
      (hFailure : run.failure = none) (hError : run.validationError ≠ some "")
      (hAnswer : ∃ bytes, .ok bytes ∈ answersTo fetch state run.calls) : IsTelling .failed run
  /-- A document passes the check and still cannot be read. -/
  | unreadable {run : Run σ} {edition : Schema.Edition} {error : Xml.ReadError}
      (hReports : run.reports = checkingReports (request.address forceOpen) ++
        [.result "Failed to parse XML document"])
      (hFailure : run.failure = none) (hValid : run.validationError = none)
      (hAnswer : .ok run.bytes ∈ answersTo fetch state run.calls)
      (hPasses : validator.Passes edition run.url run.bytes)
      (hRead : Xml.read run.bytes = .error error) : IsTelling .failed run

variable {fetch validator request forceOpen state} {run after : Run σ} {next last : State}

section Handlers

theorem IsPlaced.enter (hPlaced : IsPlaced fetch request forceOpen state run) (next : State) :
    IsPlaced fetch request forceOpen state (run.enter next) :=
  ⟨hPlaced.services, hPlaced.url⟩

theorem IsWaiting.enter (hWaiting : IsWaiting fetch request forceOpen state run) (next : State) :
    IsWaiting fetch request forceOpen state (run.enter next) :=
  ⟨hWaiting.toIsPlaced.enter next, hWaiting.reports, hWaiting.validationError, hWaiting.answers⟩

theorem IsLooking.enter (hLooking : IsLooking fetch request forceOpen state run) (next : State) :
    IsLooking fetch request forceOpen state (run.enter next) :=
  ⟨hLooking.toIsPlaced.enter next, hLooking.reports, hLooking.failure, hLooking.validationError,
    hLooking.answer⟩

theorem IsReading.enter {root : Xml.Tree} {space : String}
    (hReading : IsReading fetch request forceOpen state run root space) (next : State) :
    IsReading fetch request forceOpen state (run.enter next) root space :=
  ⟨hReading.toIsPlaced.enter next, hReading.failure, hReading.validationError, hReading.answer,
    hReading.isTree, hReading.isNamed, hReading.space⟩

/-- Entering a state tells nothing. -/
theorem IsTelling.enter (hTelling : IsTelling fetch validator request forceOpen state next run)
    (hStarted : next ≠ .start) : IsTelling fetch validator request forceOpen state next (run.enter next) := by
  cases hTelling with
  | start => exact absurd rfl hStarted
  | fetching hWaiting hFirst => exact .fetching (hWaiting.enter _) hFirst
  | unfetched hState hWaiting hUrl hAnswer hFailure =>
      exact .unfetched hState (hWaiting.enter _) hUrl hAnswer hFailure
  | fetched hLooking => exact .fetched (hLooking.enter _)
  | looking hState hLooking => exact .looking hState (hLooking.enter _)
  | recognized hState hLooking hVersion hSupports =>
      exact .recognized hState (hLooking.enter _) hVersion hSupports
  | validated hLooking hVersion hPasses hSupports hSpace hValid =>
      exact .validated (hLooking.enter _) hVersion hPasses hSupports hSpace hValid
  | probed hReading hDocument hReports => exact .probed (hReading.enter _) hDocument hReports
  | parsing hReading hDocument hReports => exact .parsing (hReading.enter _) hDocument hReports
  | parsed hReading hPackages hReports => exact .parsed (hReading.enter _) hPackages hReports
  | refused hReports hFailure hError hAnswer => exact .refused hReports hFailure hError hAnswer
  | unreadable hReports hFailure hValid hAnswer hPasses hRead =>
      exact .unreadable hReports hFailure hValid hAnswer hPasses hRead

theorem IsLooking.isTelling_failed (hLooking : IsLooking fetch request forceOpen state run) :
    IsTelling fetch validator request forceOpen state .failed run :=
  .refused hLooking.reports hLooking.failure hLooking.validationError
    ⟨run.bytes, List.mem_of_getLast? hLooking.answer⟩

/-- One more fetch of a run adds its answer, and the services are as it left them. -/
theorem IsPlaced.fetched {url : String} {answer : Except Fetch.Cause (List UInt8)} {later : σ}
    (hPlaced : IsPlaced fetch request forceOpen state run)
    (hFetch : fetch run.services url = (answer, later)) :
    answersTo fetch state (run.calls ++ [url]) = answersTo fetch state run.calls ++ [answer] ∧
      later = stateAfter fetch state (run.calls ++ [url]) := by
  rw [hPlaced.services] at hFetch
  exact ⟨answersTo_append hFetch, (stateAfter_append hFetch).symm⟩

theorem onFetching_telling (hWaiting : IsWaiting fetch request forceOpen state run)
    (hFirst : run.isSecond = false)
    (hStep : onFetching (.withValidator fetch validator) request run = (after, .ok next)) :
    IsTelling fetch validator request forceOpen state next after := by
  rcases hFetch : fetch run.services run.url with ⟨answer, later⟩
  obtain ⟨hAnswers, hServices⟩ := hWaiting.toIsPlaced.fetched hFetch
  cases answer with
  | ok bytes =>
      rw [onFetching_ok hFetch] at hStep
      cases hStep
      refine .fetched ⟨⟨hServices, hWaiting.url⟩, ?_, rfl, ?_, ?_⟩
      · simp [hFirst, hWaiting.reports, checkingReports]
      · simp [hWaiting.validationError]
      · simp [hAnswers]
  | error cause =>
      have hErrors : ∀ answer ∈ answersTo fetch state (run.calls ++ [run.url]),
          ∃ cause, answer = .error cause := by
        rw [hAnswers]
        exact List.forall_mem_append.mpr ⟨hWaiting.answers, by simp⟩
      cases hMovable : !run.isAlternate && !endsIn run.url request.indexFile with
      | true =>
          rw [Bool.and_eq_true, Bool.not_eq_true', Bool.not_eq_true'] at hMovable
          rw [onFetching_again hFetch hMovable.1 hMovable.2] at hStep
          cases hStep
          have hUrl : run.url = request.address forceOpen := by simp [hWaiting.url, hMovable.1]
          exact .fetching ⟨⟨hServices, by simp [hUrl, Request.fallback]⟩, hWaiting.reports,
            hWaiting.validationError, hErrors⟩ hFirst
      | false =>
          rw [onFetching_failed hFetch hMovable] at hStep
          cases hStep
          exact .unfetched (.inl rfl) ⟨⟨hServices, hWaiting.url⟩, hWaiting.reports,
            hWaiting.validationError, hErrors⟩ (by simp) (by simp [hAnswers]) rfl

/-- Whether or not the index file is fetched for a second look, nothing more is told. -/
theorem retry_telling (hLooking : IsLooking fetch request forceOpen state run)
    (hStep : (if run.canRetry request then run.retry (.withValidator fetch validator) request
      else (run, .ok .failed)) = (after, .ok next)) :
    IsTelling fetch validator request forceOpen state next after := by
  split at hStep
  · rename_i hRetry
    have hAlternate : run.isAlternate = false := by
      simp only [Run.canRetry, Bool.and_eq_true, Bool.not_eq_true'] at hRetry
      exact hRetry.1.2
    have hUrl : alternateUrl run.url request.indexFile = request.fallback forceOpen := by
      rw [hLooking.url, hAlternate]
      rfl
    rcases hFetch : fetch run.services (alternateUrl run.url request.indexFile) with ⟨answer, later⟩
    obtain ⟨hAnswers, hServices⟩ := hLooking.toIsPlaced.fetched hFetch
    cases answer with
    | ok bytes =>
        rw [retry_ok hFetch] at hStep
        cases hStep
        exact .fetched ⟨⟨hServices, hUrl⟩, hLooking.reports, hLooking.failure,
          hLooking.validationError, by simp [Run.moved, hAnswers]⟩
    | error cause =>
        rw [retry_error hFetch] at hStep
        cases hStep
        -- The second fetch failed, but the document of the first one still counts.
        refine .refused hLooking.reports hLooking.failure hLooking.validationError ⟨run.bytes, ?_⟩
        rw [Run.called, hAnswers]
        exact List.mem_append_left _ (List.mem_of_getLast? hLooking.answer)
  · cases hStep
    exact hLooking.isTelling_failed

/-- What is recorded of a document for the outcome is not told yet. -/
theorem IsLooking.record (hLooking : IsLooking fetch request forceOpen state run) (version : Nat)
    (error : Option String) (errorKind : Option ErrorKind) :
    IsLooking fetch request forceOpen state { run with version, error, errorKind } :=
  ⟨⟨hLooking.services, hLooking.url⟩, hLooking.reports, hLooking.failure, hLooking.validationError,
    hLooking.answer⟩

/-- What the check says is not told yet. -/
theorem IsLooking.check (hLooking : IsLooking fetch request forceOpen state run)
    (warnings : List String) (space : Option String) {validationError : Option String}
    (hError : validationError ≠ some "") :
    IsLooking fetch request forceOpen state { run with warnings, space, validationError } :=
  ⟨⟨hLooking.services, hLooking.url⟩, hLooking.reports, hLooking.failure, hError, hLooking.answer⟩

theorem onDetecting_telling (hLooking : IsLooking fetch request forceOpen state run)
    (hStep : onDetecting request run = (after, .ok next)) :
    IsTelling fetch validator request forceOpen state next after := by
  rw [onDetecting] at hStep
  split at hStep
  · cases hStep
  · cases hStep
    exact .looking (by decide) hLooking
  · rename_i version hVersion
    have hDetected := hLooking.record version run.error run.errorKind
    split at hStep
    · rename_i hSupports
      cases hStep
      exact .recognized (.inl rfl) hDetected hVersion hSupports
    · split at hStep <;> cases hStep <;> exact .looking (by decide) hDetected

theorem onValidating_telling (hLooking : IsLooking fetch request forceOpen state run)
    (hVersion : Feed.detectVersion request.source.kind run.bytes = .ok run.version)
    (hSupports : request.family.supports run.version = true)
    (hStep : onValidating (.withValidator fetch validator) request run = (after, .ok next)) :
    IsTelling fetch validator request forceOpen state next after := by
  cases hAnswer : validator.validate ⟨request.source.kind, run.version⟩ run.url
      run.bytes with
  | error breakdown =>
      obtain ⟨_, hBroken⟩ := onValidating_error fetch run hAnswer
      rw [hBroken] at hStep
      cases hStep
  | ok validation =>
      have hError := Schema.Validator.validate_error_ne_empty hAnswer
      cases hValid : validation.isValid with
      | true =>
          rw [onValidating_valid fetch hAnswer hValid] at hStep
          cases hStep
          exact .validated (hLooking.check _ _ nofun) hVersion ⟨validation, hAnswer, hValid⟩ hSupports
            (Schema.Validator.validate_space hAnswer hValid) rfl
      | false =>
          have hChecked := hLooking.check
            (run.warnings ++ validator.warnings ⟨request.source.kind, run.version⟩)
            run.space hError
          cases hUnavailable : validation.isUnavailable with
          | true =>
              rw [onValidating_unchecked fetch hAnswer hValid hUnavailable] at hStep
              cases hStep
              exact .looking (by decide) hChecked
          | false =>
              rw [onValidating_invalid fetch hAnswer hValid hUnavailable] at hStep
              cases hStep
              exact .looking (by decide) hChecked

theorem Run.reportAlternate_eq (run : Run σ) :
    run.reportAlternate =
      { run with
        reports := run.reports ++ (alternateResults run.isAlternate run.url).map .result } := by
  rw [reportAlternate, alternateResults]
  split
  · rfl
  · rw [List.map_nil, List.append_nil]

theorem onValid_telling (hLooking : IsLooking fetch request forceOpen state run)
    (hVersion : Feed.detectVersion request.source.kind run.bytes = .ok run.version)
    (hPasses : validator.Passes ⟨request.source.kind, run.version⟩ run.url run.bytes)
    (hSupports : request.family.supports run.version = true)
    (hSpace : run.space = some (request.family.space run.version))
    (hValid : run.validationError = none) (hStep : onValid run = (after, .ok next)) :
    IsTelling fetch validator request forceOpen state next after := by
  have hSome := Feed.Family.ne_zero_of_supports hSupports
  cases hRead : Xml.read run.bytes with
  | error error =>
      cases error with
      | encoding fault => exact absurd hRead (Feed.read_encoding_of_version hVersion hSome fault)
      | malformed | misnamed =>
          simp only [onValid, hRead, Run.softFail_eq] at hStep
          cases hStep
          refine .unreadable ?_ hLooking.failure hValid (List.mem_of_getLast? hLooking.answer) hPasses
            hRead
          exact congrArg (· ++ _) hLooking.reports
  | ok root =>
      have hNamed := Package.isNamed_space (Feed.read_root_of_version hVersion hSome hRead)
      simp only [onValid, hRead, Run.reportAlternate_eq] at hStep
      cases hStep
      exact .parsing ⟨⟨hLooking.services, hLooking.url⟩, hLooking.failure, hValid, hLooking.answer,
        .inl hRead, hNamed, hSpace⟩ rfl (congrArg (· ++ _) hLooking.reports)

theorem onProbing_telling (hLooking : IsLooking fetch request forceOpen state run)
    (hStep : onProbing request run = (after, .ok next)) :
    IsTelling fetch validator request forceOpen state next after := by
  rw [onProbing] at hStep
  split at hStep
  · cases hStep
  · cases hStep
    exact .looking (by decide) hLooking
  · cases hStep
    exact .looking (by decide) hLooking
  · rename_i root hSalvage
    cases hStep
    obtain ⟨_, document, _, hDocument⟩ := Package.Salvage.ofBytes_eq_some hSalvage
    have hNamed := Package.isNamed_space (Package.Salvage.ofDocument?_name hDocument)
    exact .probed ⟨⟨hLooking.services, hLooking.url⟩, hLooking.failure, rfl, hLooking.answer,
      .inr hSalvage, hNamed, rfl⟩ rfl hLooking.reports

/-- A document with the root element that is expected lists its packages. -/
theorem IsReading.exists_packages {root : Xml.Tree} {space : String}
    (hReading : IsReading fetch request forceOpen state run root space) :
    ∃ packages, (Package.Index.ofDocument request.source.kind space run.url root).packages =
      some packages := by
  have hNamed : Package.isNamed root space request.source.kind.family.root = true :=
    hReading.isNamed
  rw [Package.Index.ofDocument, if_pos hNamed]
  exact ⟨_, rfl⟩

theorem onParsing_named {root : Xml.Tree} {space : String}
    (hReading : IsReading fetch request forceOpen state run root space)
    (hDocument : run.document = some root) :
    ∃ warnings error errorKind description, onParsing request run =
      ({ run with
        reports := run.reports ++ [.advance 1, .description "Parse XML", .advance 1] ++
          (Package.Index.ofDocument request.source.kind space run.url root).reports ++ [.advance 1]
        packages := (Package.Index.ofDocument request.source.kind space run.url root).packages
        warnings
        error
        errorKind
        description }, .ok .parsed) := by
  obtain ⟨packages, hPackages⟩ := hReading.exists_packages
  have hSteps : run.reports ++ [.advance 1] ++ [.description "Parse XML"] ++ [.advance 1] =
      run.reports ++ [.advance 1, .description "Parse XML", .advance 1] := by
    rw [List.append_assoc, List.append_assoc]
    rfl
  cases hSalvaged : run.isSalvaged with
  | true =>
      simp only [onParsing, Run.report, Run.warn, hDocument, hReading.space, Option.getD_some,
        hPackages, hSalvaged, if_true, hSteps]
      exact ⟨_, _, _, _, rfl⟩
  | false =>
      simp only [onParsing, Run.report, Run.warn, hDocument, hReading.space, Option.getD_some,
        hPackages, hSalvaged, hSteps]
      exact ⟨_, _, _, _, rfl⟩

theorem onParsing_telling {root : Xml.Tree} {space : String}
    (hReading : IsReading fetch request forceOpen state run root space)
    (hDocument : run.document = some root)
    (hReports : run.reports = checkingReports (request.address forceOpen) ++
      (alternateResults run.isAlternate run.url).map .result)
    (hStep : onParsing request run = (after, .ok next)) :
    IsTelling fetch validator request forceOpen state next after := by
  obtain ⟨warnings, error, errorKind, description, hParsed⟩ := onParsing_named hReading hDocument
  rw [hParsed, hReports] at hStep
  cases hStep
  exact .parsed ⟨⟨hReading.services, hReading.url⟩, hReading.failure, hReading.validationError,
    hReading.answer, hReading.isTree, hReading.isNamed, hReading.space⟩ rfl rfl

/-- What is found out about a document is not told, as long as it leads nowhere. -/
theorem looking_telling (hState : last ∈ State.looking)
    (hLooking : IsLooking fetch request forceOpen state run)
    (hStep : step (.withValidator fetch validator) request run last = (after, .ok next)) :
    IsTelling fetch validator request forceOpen state next after := by
  cases last with
  | detectingVersion => exact onDetecting_telling hLooking hStep
  | noVersion =>
      rw [step, onNoVersion, Run.softFail_eq] at hStep
      exact retry_telling (hLooking.record _ _ _) hStep
  | versionTooNew =>
      cases hStep
      exact .looking (by decide) hLooking
  | probing => exact onProbing_telling hLooking hStep
  | validationFailed => exact retry_telling (hLooking.record _ _ _) hStep
  | validatorMissing | probeFailed =>
      cases hStep
      exact (hLooking.record _ _ _).isTelling_failed
  | start | fetching | fetchFailed | fetched | versionSupported | validating | validated | probed
  | parsing | parsed | failed => simp [State.looking] at hState

/-- Every step of a load tells what belongs to the state that it leads to. -/
theorem step_telling (hTelling : IsTelling fetch validator request forceOpen state last run)
    (hOpen : last.isFinal = false)
    (hStep : step (.withValidator fetch validator) request run last = (after, .ok next)) :
    IsTelling fetch validator request forceOpen state next after := by
  cases hTelling with
  | start =>
      cases hStep
      exact .fetching ⟨⟨rfl, rfl⟩, rfl, rfl, nofun⟩ rfl
  | fetching hWaiting hFirst => exact onFetching_telling hWaiting hFirst hStep
  | unfetched hState hWaiting hUrl hAnswer hFailure =>
      rcases hState with rfl | rfl
      · cases hStep
        exact .unfetched (.inr rfl) hWaiting hUrl hAnswer hFailure
      · cases hOpen
  | fetched hLooking =>
      rw [step_fetched] at hStep
      cases hStep
      exact .looking (by decide) hLooking
  | looking hState hLooking => exact looking_telling hState hLooking hStep
  | recognized hState hLooking hVersion hSupports =>
      rcases hState with rfl | rfl
      · cases hStep
        exact .recognized (.inr rfl) hLooking hVersion hSupports
      · exact onValidating_telling hLooking hVersion hSupports hStep
  | validated hLooking hVersion hPasses hSupports hSpace hValid =>
      exact onValid_telling hLooking hVersion hPasses hSupports hSpace hValid hStep
  | probed hReading hDocument hReports =>
      rw [step, Run.reportAlternate_eq] at hStep
      cases hStep
      exact .parsing ⟨⟨hReading.services, hReading.url⟩, hReading.failure, hReading.validationError,
        hReading.answer, hReading.isTree, hReading.isNamed, hReading.space⟩ hDocument
        (congrArg (· ++ _) hReports)
  | parsing hReading hDocument hReports => exact onParsing_telling hReading hDocument hReports hStep
  | parsed | refused | unreadable => cases hOpen

end Handlers

section Ending

theorem step_ne_start {services : Services σ} (hOpen : last.isFinal = false)
    (hStep : step services request run last = (after, .ok next)) : next ≠ .start := by
  have hFollowers : ∀ state : State, .start ∉ state.followers := by
    intro state
    cases state <;> decide
  cases step_transition hOpen hStep with
  | stay hNext | fetch hNext =>
      rintro rfl
      exact hFollowers _ hNext
  | again | retry | lose => exact nofun

theorem drive_telling {steps : Nat}
    (hDrive : drive (.withValidator fetch validator) request steps .start
      (.start request forceOpen state) = (run, .ok last)) :
    IsTelling fetch validator request forceOpen state last run :=
  drive_invariant (IsTelling fetch validator request forceOpen state)
    (fun _ _ _ _ hOpen hStep hBefore =>
      (step_telling hBefore hOpen hStep).enter (step_ne_start hOpen hStep)) .start hDrive

/-- A load that comes to an outcome has finished a run in a final state. -/
theorem load_eq_finish {services : Services σ} {outcome : Outcome}
    (hLoad : load services request forceOpen state = (run, .ok outcome)) :
    ∃ ended last, drive services request stepLimit .start (.start request forceOpen state) =
        (ended, .ok last) ∧ last.isFinal = true ∧ finish request ended last = (run, outcome) := by
  rw [load, loadWithin] at hLoad
  rcases hDrive : drive services request stepLimit .start (.start request forceOpen state) with
    ⟨ended, ending⟩
  rw [hDrive] at hLoad
  cases ending with
  | error crash => cases hLoad
  | ok last =>
      have hFinal : last.isFinal = true :=
        drive_isFinal ((stepBudget_start request forceOpen state).trans (by decide))
          (congrArg Prod.snd hDrive)
      simp only [giveUp_final request ended hFinal] at hLoad
      cases hLoad
      exact ⟨ended, last, rfl, hFinal, rfl⟩

/-- What is told at the end of a load that fails. -/
def closingResults (run : Run σ) : List String :=
  match run.failure with
  | none => (nonempty run.validationError).toList
  | some failure =>
    ["Failed to fetch URL " ++ run.url ++ ", reason: " ++ (failureTexts failure).2.2] ++
      (nonempty run.validationError).toList

theorem finish_reports (request : Request) (run : Run σ) (last : State) :
    (finish request run last).1.reports = run.reports ++ (closingResults run).map .result := by
  cases hFailure : run.failure <;> cases hError : nonempty run.validationError <;>
    simp [finish, settleFailure, closingResults, Run.report, hFailure, hError]

theorem nonempty_toList {text : Option String} (hText : text ≠ some "") :
    (nonempty text).toList = text.toList := by
  cases text with
  | none => rfl
  | some words =>
      have hWords : words.isEmpty = false := by
        rw [Bool.eq_false_iff, Ne, String.isEmpty_iff]
        exact fun hNone => hText (congrArg some hNone)
      simp [nonempty, Option.filter, hWords]

theorem closingResults_of_failure_eq_none (hFailure : run.failure = none)
    (hError : run.validationError ≠ some "") :
    closingResults run = run.validationError.toList := by
  rw [closingResults, hFailure, nonempty_toList hError]

end Ending

section Told

open SdkFeed.Package (Reading)

theorem foldl_add_results (results : List String) (record : Record) :
    (results.map Report.result).foldl Record.add record =
      { record with results := record.results ++ results } := by
  induction results generalizing record with
  | nil => simp
  | cons result results ih => simp [Record.add, ih]

/-- Each reading tells of its package, or complains. -/
theorem foldl_add_readings (readings : List Reading) (record : Record) :
    (readings.map Reading.report).foldl Record.add record =
      { record with
        descriptions :=
          record.descriptions ++ (readings.filterMap Reading.package?).map Reading.foundMessage
        results := record.results ++ readings.filterMap Reading.complaint? } := by
  induction readings generalizing record with
  | nil => simp
  | cons reading readings ih =>
      obtain ⟨element, outcome⟩ := reading
      rw [List.map_cons, List.foldl_cons, ih, List.filterMap_cons, List.filterMap_cons]
      cases outcome <;>
        simp [Record.add, Reading.report, Reading.package?, Reading.complaint?, Except.toOption]

theorem ofReports_opening (address : String) (results : List String) :
    Record.ofReports (openingReports address ++ results.map .result) =
      ⟨4, 1, ["Fetching " ++ address], results⟩ := by
  rw [Record.ofReports, List.foldl_append, foldl_add_results]
  rfl

theorem ofReports_checking (address : String) (results : List String) :
    Record.ofReports (checkingReports address ++ results.map .result) =
      ⟨4, 1, ["Fetching " ++ address, "Validate XML"], results⟩ := by
  rw [Record.ofReports, List.foldl_append, foldl_add_results]
  rfl

theorem ofReports_parsed (address : String) (results : List String) (readings : List Reading) :
    Record.ofReports (checkingReports address ++ results.map .result ++
        [.advance 1, .description "Parse XML", .advance 1] ++ readings.map Reading.report ++
        [.advance 1]) =
      ⟨4, 4, ["Fetching " ++ address, "Validate XML", "Parse XML"] ++
          (readings.filterMap Reading.package?).map Reading.foundMessage,
        results ++ readings.filterMap Reading.complaint?⟩ := by
  have hChecked := ofReports_checking address results
  rw [Record.ofReports] at hChecked
  rw [Record.ofReports, List.foldl_append, List.foldl_append, List.foldl_append, foldl_add_readings,
    hChecked]
  rfl

/-- What a load has told in all. Of four steps it takes all if it ends well, and one otherwise. It
tells what it fetches, that a document is checked if there is one, and at a good end each package of
the document in turn. The user hears of the address of the index file and of each element that is
passed over; of the last fetch, if all have failed; or what the check says, and nothing else. -/
structure Tells (fetch : σ → String → Except Fetch.Cause (List UInt8) × σ) (request : Request)
    (forceOpen : Bool) (state : σ) (calls : List String) (outcome : Outcome)
    (readings : List Reading) (told : Record) : Prop where
  steps : told.steps = 4
  progress : told.progress = if outcome.isSuccess then 4 else 1
  descriptions : told.descriptions = ["Fetching " ++ request.address forceOpen] ++
    (if (answersTo fetch state calls).any Except.isOk then ["Validate XML"] else []) ++
    (if outcome.isSuccess then
      ["Parse XML"] ++ (readings.filterMap Reading.package?).map Reading.foundMessage else [])
  listed : outcome.isSuccess = true → told.results =
    alternateResults outcome.usedAlternate (request.fallback forceOpen) ++
      readings.filterMap Reading.complaint?
  unfetched : outcome.isSuccess = false → (answersTo fetch state calls).any Except.isOk = false →
    ∃ url cause, calls.getLast? = some url ∧
      (answersTo fetch state calls).getLast? = some (.error cause) ∧
      told.results = ["Failed to fetch URL " ++ url ++ ", reason: " ++
        (failureTexts (Fetch.classify url cause)).2.2]
  refused : outcome.isSuccess = false → (answersTo fetch state calls).any Except.isOk = true →
    told.results = outcome.validationError.toList

/-- The packages of an outcome come from the document that was fetched last: they are what the
readings of its elements give. -/
def AreFound (fetch : σ → String → Except Fetch.Cause (List UInt8) × σ) (request : Request)
    (forceOpen : Bool) (state : σ) (calls : List String) (outcome : Outcome)
    (readings : List Reading) : Prop :=
  ∃ bytes root space, (answersTo fetch state calls).getLast? = some (.ok bytes) ∧
    IsTreeOf request.source.kind bytes root ∧ outcome.space = some space ∧
    readings = Package.readings request.source.kind space
      (if outcome.usedAlternate then request.fallback forceOpen else request.address forceOpen) root ∧
    outcome.packages = some (Package.sorted (readings.filterMap Reading.package?))

variable {outcome : Outcome} {ended : Run σ}

theorem any_isOk_of_mem {answers : List (Except Fetch.Cause (List UInt8))} {bytes : List UInt8}
    (hAnswer : .ok bytes ∈ answers) : answers.any Except.isOk = true :=
  List.any_eq_true.mpr ⟨_, hAnswer, rfl⟩

/-- What a finished run has told. -/
theorem finish_told (hFinish : finish request ended last = (run, outcome)) :
    run.calls = ended.calls ∧ outcome = ended.closing request last ∧
      run.reports = ended.reports ++ (closingResults ended).map .result := by
  obtain ⟨hCalls, hOutcome⟩ := finish_eq request ended last
  have hReports := finish_reports request ended last
  rw [hFinish] at hCalls hOutcome hReports
  exact ⟨hCalls, hOutcome, hReports⟩

/-- Only the address of the index file is told. -/
theorem IsPlaced.alternateResults_eq (hPlaced : IsPlaced fetch request forceOpen state run) :
    alternateResults run.isAlternate run.url =
      alternateResults run.isAlternate (request.fallback forceOpen) := by
  rw [hPlaced.url]
  cases run.isAlternate <;> rfl

/-- A load that has fetched nothing tells of its last fetch. -/
theorem IsWaiting.tells {cause : Fetch.Cause} (hWaiting : IsWaiting fetch request forceOpen state ended)
    (hUrl : ended.calls.getLast? = some ended.url)
    (hAnswer : (answersTo fetch state ended.calls).getLast? = some (.error cause))
    (hFailure : ended.failure = some (Fetch.classify ended.url cause))
    (hFinish : finish request ended .failed = (run, outcome)) :
    Tells fetch request forceOpen state run.calls outcome [] (Record.ofReports run.reports) := by
  obtain ⟨hCalls, rfl, hReports⟩ := finish_told hFinish
  have hNone : (answersTo fetch state ended.calls).any Except.isOk = false := by
    rw [List.any_eq_false]
    intro answer hIn
    obtain ⟨cause, rfl⟩ := hWaiting.answers answer hIn
    exact nofun
  have hClosing : closingResults ended = ["Failed to fetch URL " ++ ended.url ++ ", reason: " ++
      (failureTexts (Fetch.classify ended.url cause)).2.2] := by
    rw [closingResults, hFailure, hWaiting.validationError]
    rfl
  rw [hReports, hWaiting.reports, ofReports_opening, hClosing, hCalls]
  refine ⟨rfl, rfl, ?_, nofun, fun _ _ => ⟨_, cause, hUrl, hAnswer, rfl⟩, ?_⟩
  · rw [hNone]
    rfl
  · intro _ hSome
    rw [hNone] at hSome
    cases hSome

/-- A load that has fetched documents without any use tells what the check says. -/
theorem refused_tells {bytes : List UInt8}
    (hReports : ended.reports = checkingReports (request.address forceOpen))
    (hFailure : ended.failure = none) (hError : ended.validationError ≠ some "")
    (hAnswer : .ok bytes ∈ answersTo fetch state ended.calls)
    (hFinish : finish request ended .failed = (run, outcome)) :
    Tells fetch request forceOpen state run.calls outcome [] (Record.ofReports run.reports) := by
  obtain ⟨hCalls, rfl, hTold⟩ := finish_told hFinish
  have hSome := any_isOk_of_mem hAnswer
  rw [hTold, hReports, ofReports_checking, closingResults_of_failure_eq_none hFailure hError, hCalls]
  refine ⟨rfl, rfl, ?_, nofun, ?_, fun _ _ => rfl⟩
  · rw [hSome]
    rfl
  · intro _ hNone
    rw [hSome] at hNone
    cases hNone

/-- A load that ends well tells of every package and every complaint. -/
theorem IsReading.tells {root : Xml.Tree} {space : String}
    (hReading : IsReading fetch request forceOpen state ended root space)
    (hPackages : ended.packages =
      (Package.Index.ofDocument request.source.kind space ended.url root).packages)
    (hReports : ended.reports = checkingReports (request.address forceOpen) ++
      (alternateResults ended.isAlternate ended.url).map .result ++
      [.advance 1, .description "Parse XML", .advance 1] ++
      (Package.Index.ofDocument request.source.kind space ended.url root).reports ++ [.advance 1])
    (hFinish : finish request ended .parsed = (run, outcome)) :
    ∃ readings, AreFound fetch request forceOpen state run.calls outcome readings ∧
      Tells fetch request forceOpen state run.calls outcome readings (Record.ofReports run.reports) := by
  obtain ⟨hCalls, rfl, hTold⟩ := finish_told hFinish
  obtain ⟨packages, hIndex⟩ := hReading.exists_packages
  obtain ⟨hSorted, hFound⟩ := Package.ofDocument_eq_readings hIndex
  have hClosing : closingResults ended = [] := by
    rw [closingResults, hReading.failure, hReading.validationError]
    rfl
  have hSome := any_isOk_of_mem (List.mem_of_getLast? hReading.answer)
  rw [hTold, hClosing, List.map_nil, List.append_nil, hReports, hFound, ofReports_parsed, hCalls]
  refine ⟨Package.readings request.source.kind space ended.url root,
    ⟨ended.bytes, root, space, hReading.answer, hReading.isTree, hReading.space, ?_, ?_⟩,
    ⟨rfl, rfl, ?_, ?_, nofun, nofun⟩⟩
  · rw [hReading.url]
    rfl
  · rw [← hSorted, ← hIndex, ← hPackages]
    rfl
  · rw [hSome, List.append_assoc]
    rfl
  · intro _
    exact congrArg (· ++ _) hReading.toIsPlaced.alternateResults_eq

/-- What every load tells on its way to an outcome, whatever its documents are checked with, if both
readers agree on the documents that are fetched. -/
theorem load_tells (hLoad : load (.withValidator fetch validator) request forceOpen state =
      (run, .ok outcome))
    (hAgree : ∀ bytes, .ok bytes ∈ answersTo fetch state run.calls → Schema.ReadersAgree bytes) :
    ∃ readings, (outcome.isSuccess = true →
        AreFound fetch request forceOpen state run.calls outcome readings) ∧
      Tells fetch request forceOpen state run.calls outcome readings (Record.ofReports run.reports) := by
  obtain ⟨ended, last, hDrive, hFinal, hFinish⟩ := load_eq_finish hLoad
  cases drive_telling hDrive with
  | unfetched hState hWaiting hUrl hAnswer hFailure =>
      obtain rfl : last = .failed := hState.resolve_left (by rintro rfl; cases hFinal)
      have hTells := hWaiting.tells hUrl hAnswer hFailure hFinish
      obtain ⟨_, rfl, _⟩ := finish_told hFinish
      exact ⟨[], nofun, hTells⟩
  | parsed hReading hPackages hReports =>
      obtain ⟨readings, hFound, hTells⟩ := hReading.tells hPackages hReports hFinish
      exact ⟨readings, fun _ => hFound, hTells⟩
  | refused hReports hFailure hError hAnswer =>
      obtain ⟨bytes, hBytes⟩ := hAnswer
      have hTells := refused_tells hReports hFailure hError hBytes hFinish
      obtain ⟨_, rfl, _⟩ := finish_told hFinish
      exact ⟨[], nofun, hTells⟩
  | unreadable hReports hFailure hValid hAnswer hPasses hRead =>
      obtain ⟨hCalls, _, _⟩ := finish_told hFinish
      rw [hCalls] at hAgree
      obtain ⟨_, root, hOther, _⟩ := hPasses.exists_root (hAgree _ hAnswer)
      rw [hRead] at hOther
      cases hOther
  | looking hState =>
      have hOpen : ∀ looking ∈ State.looking, looking.isFinal = false := by decide
      rw [hOpen _ hState] at hFinal
      cases hFinal
  | recognized hState => rcases hState with rfl | rfl <;> cases hFinal
  | start | fetching | fetched | validated | probed | parsing => cases hFinal

theorem servingAt_answers {address : String} {document bytes : List UInt8} {calls : List String}
    (hAnswer : .ok bytes ∈ answersTo (servingAt address document) () calls) : bytes = document := by
  induction calls with
  | nil => cases hAnswer
  | cons url later ih =>
      rcases List.mem_cons.mp hAnswer with hFirst | hLater
      · rw [servingAt] at hFirst
        split at hFirst
        · exact Except.ok.inj hFirst
        · cases hFirst
      · exact ih hLater

/-- A load that goes over to the index file tells so ahead of all complaints. -/
theorem open_load_told :
    ∃ run outcome readings,
      load (.withValidator (servingAt "http://sdk.test/dir/repository.xml" toolIndex) .standard)
          (.ofUrl "https://sdk.test/dir") true () = (run, .ok outcome) ∧
      AreFound (servingAt "http://sdk.test/dir/repository.xml" toolIndex)
        (.ofUrl "https://sdk.test/dir") true () run.calls outcome readings ∧
      Tells (servingAt "http://sdk.test/dir/repository.xml" toolIndex)
        (.ofUrl "https://sdk.test/dir") true () run.calls outcome readings
        (Record.ofReports run.reports) ∧
      (Record.ofReports run.reports).progress = 4 ∧
      (Record.ofReports run.reports).results.head? =
        some "Repository found at http://sdk.test/dir/repository.xml" := by
  have hFallback : Request.fallback (.ofUrl "https://sdk.test/dir") true =
      "http://sdk.test/dir/repository.xml" := by decide +kernel
  obtain ⟨run, hLoad, _⟩ := (agrees_of_ofLoad ofLoad_toolIndex).load_eq
  have hAgree (bytes : List UInt8) (hAnswer : .ok bytes ∈ answersTo
      (servingAt "http://sdk.test/dir/repository.xml" toolIndex) () run.calls) :
      Schema.ReadersAgree bytes := by
    rw [servingAt_answers hAnswer]
    exact Package.toolIndex_readersAgree
  obtain ⟨readings, hFound, hTells⟩ := load_tells hLoad hAgree
  refine ⟨run, _, readings, hLoad, hFound rfl, hTells, hTells.progress, ?_⟩
  rw [hTells.listed rfl, hFallback]
  rfl

end Told

end SdkFeed.Load
