import SdkFeed.Proofs.Load.Course
import SdkFeed.Proofs.Load.Judgement

/-! The steps of a load through one attempt. -/
namespace SdkFeed.Schema

/-- A valid document is valid for the edition that it was checked against. -/
theorem Validator.validate_space {validator : Validator} {edition : Edition} {url : String}
    {bytes : List UInt8} {validation : Validation}
    (hAnswer : validator.validate edition url bytes = .ok validation)
    (hValid : validation.isValid = true) : validation.space = some edition.space := by
  rw [validate] at hAnswer
  split at hAnswer
  · obtain rfl := Except.ok.inj hAnswer
    cases hValid
  · cases hJudge : edition.judge bytes with
    | error breakdown => rw [hJudge] at hAnswer; cases hAnswer
    | ok verdict =>
        rw [hJudge] at hAnswer
        obtain rfl := Except.ok.inj hAnswer
        cases verdict with
        | valid => rfl
        | notWellFormed => cases hValid
        | invalid violation => cases hValid

end SdkFeed.Schema

namespace SdkFeed.Package

theorem isNamed_space {kind : Feed.Kind} {version : Int} {root : Xml.Tree}
    (hName : root.name = ⟨kind.family.space version, kind.family.root⟩) :
    isNamed root (kind.family.space version) kind.family.root = true := by
  have hFilled : (kind.family.space version).isEmpty = false := by
    cases kind <;> simp [Feed.Family.space, Feed.Kind.family, Feed.Family.repository, Feed.Family.addon]
  simp [isNamed, hName, hFilled]

/-- The salvaged document has the root element of the newest version that is understood. -/
theorem Salvage.ofDocument?_name {family : Feed.Family} {root salvaged : Xml.Tree}
    (hSalvage : ofDocument? family root = some salvaged) :
    salvaged.name = ⟨family.latestSpace, family.root⟩ := by
  obtain ⟨_, _, hRest⟩ := Option.bind_eq_some_iff.mp hSalvage
  obtain ⟨_, _, hTree⟩ := Option.bind_eq_some_iff.mp hRest
  exact Option.some.inj hTree ▸ rfl

theorem Salvage.ofBytes_eq_some {kind : Feed.Kind} {bytes : List UInt8} {salvaged : Xml.Tree}
    (hSalvage : ofBytes kind bytes = .ok (some salvaged)) :
    kind.isTrusted = true ∧ ∃ root, Xml.read bytes = .ok root ∧
      ofDocument? kind.family root = some salvaged := by
  rw [ofBytes] at hSalvage
  split at hSalvage
  · rename_i hTrusted
    split at hSalvage
    · rename_i root hRead
      exact ⟨(Bool.and_eq_true_iff.mp hTrusted).1, root, hRead, Except.ok.inj hSalvage⟩
    · cases hSalvage
    · cases hSalvage
  · cases hSalvage

end SdkFeed.Package

namespace SdkFeed.Load

theorem Index.packages_of_name {kind : Feed.Kind} {version : Int} {url : String} {root : Xml.Tree}
    (hName : root.name = ⟨kind.family.space version, kind.family.root⟩) :
    (Package.Index.ofDocument kind (kind.family.space version) url root).packages =
      some (listing kind (kind.family.space version) url root) := by
  rw [Package.Index.ofDocument, if_pos (Package.isNamed_space hName)]
  rfl

variable {σ : Type} {fetch : σ → String → Except Fetch.Cause (List UInt8) × σ}
  {validator : Schema.Validator} {request : Request}

namespace Run

/-- A run without the documents in it and without what was reported on the way. -/
def bare (run : Run σ) : Run σ :=
  { run with bytes := [], document := none, reports := [], warnings := [], trace := [] }

end Run

/-- An error that is recorded unless there is one already. -/
theorem Run.softFail_eq (run : Run σ) (kind : ErrorKind) (message : String) :
    run.softFail kind message =
      { run with
        error := run.error.or (some message)
        errorKind := if run.error.isSome then run.errorKind else some kind } := by
  rw [softFail]
  cases hError : run.error with
  | none => rfl
  | some error =>
      have hSame : run = { run with error := some error } := by rw [← hError]
      exact hSame

/-- What an attempt leaves of a run. -/
def Attempt.mark (request : Request) (run : Run σ) : Attempt → Run σ
  | .unfetched _ => run
  | .unrecognized =>
    { run with
      version := 0
      error := run.error.or
        (some ("Failed to validate the XML for the repository at URL '" ++ run.url ++ "'"))
      errorKind := if run.error.isSome then run.errorKind else some .unrecognizedDocument }
  | .invalid version error =>
    { run with version, validationError := error, error, errorKind := some .documentInvalid }
  | .unchecked version error =>
    { run with version, validationError := error, error, errorKind := some .validatorMissing }
  | .tooNew version =>
    { run with
      version
      error := some ("The repository at URL '" ++ run.url ++ "' uses schema version " ++
        toString version ++ ", which is newer than this version supports. " ++ request.hint.info)
      errorKind := some .unsupportedSchema }
  | .unreadable version =>
    { run with
      version
      space := some (request.family.space version)
      validationError := none
      error := run.error.or (some "Failed to parse XML document")
      errorKind := if run.error.isSome then run.errorKind else some .parseFailed }
  | .usable version isSalvaged packages =>
    { run with
      version
      space := some (if isSalvaged then request.family.latestSpace else request.family.space version)
      isSalvaged
      validationError := none
      error := if isSalvaged then some request.hint.info else none
      errorKind := if isSalvaged then some .unsupportedSchema else none
      packages := some packages
      description := (if isSalvaged then request.hint.description else run.description) ++ "\n" ++
        countSummary packages.length }

/-- The state that an attempt ends in, if no other follows it. -/
def Attempt.final : Attempt → State
  | .usable .. => .parsed
  | _ => .failed

section Steps

variable {services : Services σ} {used : Nat} {before : State × Run σ} {run : Run σ} {version : Nat}

/-- That a document is checked is told once. -/
theorem step_fetched (services : Services σ) (request : Request) (run : Run σ) :
    step services request run .fetched =
      ({ run with
        reports := if run.isSecond then run.reports
          else run.reports ++ [.description "Validate XML"] }, .ok .detectingVersion) := by
  simp only [step]
  split <;> rfl

/-- A document that has been fetched is asked for its version. -/
theorem Leads.detecting (hLeads : Leads services request used before (.fetched, run)) :
    ∃ reports trace, Leads services request (used + 1) before
      (.detectingVersion, { run with reports, trace }) := by
  have hDetecting := hLeads.andThen rfl (step_fetched services request run)
  exact ⟨_, _, hDetecting⟩

theorem onDetecting_supported
    (hVersion : Feed.detectVersion request.source.kind run.bytes = .ok version)
    (hSupports : request.family.supports version = true) :
    onDetecting request run = ({ run with version }, .ok .versionSupported) := by
  simp only [onDetecting, hVersion, hSupports, if_true]

theorem onDetecting_newer
    (hVersion : Feed.detectVersion request.source.kind run.bytes = .ok version)
    (hSupports : request.family.supports version = false)
    (hNewer : request.family.latest < version) :
    onDetecting request run = ({ run with version }, .ok .versionTooNew) := by
  simp only [onDetecting, hVersion, hSupports, hNewer, if_true]
  rfl

theorem onDetecting_zero (hVersion : Feed.detectVersion request.source.kind run.bytes = .ok 0) :
    onDetecting request run = ({ run with version := 0 }, .ok .noVersion) := by
  have hSupports : request.family.supports (0 : Nat) = false := rfl
  have hLatest : ¬request.family.latest < (0 : Nat) := by
    have hOne := Feed.Family.one_le_latest request.source.kind
    change ¬request.source.kind.family.latest < _
    omega
  simp only [onDetecting, hVersion, hSupports, hLatest, if_false]
  rfl

/-- A document of a version that is understood is checked. -/
theorem Leads.validating (hLeads : Leads services request used before (.fetched, run))
    (hVersion : Feed.detectVersion request.source.kind run.bytes = .ok version)
    (hSupports : request.family.supports version = true) :
    ∃ reports trace, Leads services request (used + 3) before
      (.validating, { run with reports, trace, version }) := by
  obtain ⟨reports, trace, hDetecting⟩ := hLeads.detecting
  have hDetected := hDetecting.andThen rfl (onDetecting_supported hVersion hSupports)
  exact ⟨_, _, hDetected.andThen rfl rfl⟩

/-- A document of a newer version is probed. -/
theorem Leads.probing (hLeads : Leads services request used before (.fetched, run))
    (hVersion : Feed.detectVersion request.source.kind run.bytes = .ok version)
    (hSupports : request.family.supports version = false)
    (hNewer : request.family.latest < version) :
    ∃ reports trace, Leads services request (used + 3) before
      (.probing, { run with reports, trace, version }) := by
  obtain ⟨reports, trace, hDetecting⟩ := hLeads.detecting
  have hDetected := hDetecting.andThen rfl (onDetecting_newer hVersion hSupports hNewer)
  exact ⟨_, _, hDetected.andThen rfl rfl⟩

/-- A document of no version of the family is not recognized. -/
theorem Leads.noVersion (hLeads : Leads services request used before (.fetched, run))
    (hVersion : Feed.detectVersion request.source.kind run.bytes = .ok 0) :
    ∃ reports trace, Leads services request (used + 2) before
      (.noVersion, { run with reports, trace, version := 0 }) := by
  obtain ⟨reports, trace, hDetecting⟩ := hLeads.detecting
  exact ⟨_, _, hDetecting.andThen rfl (onDetecting_zero hVersion)⟩

section Checking

variable {validation : Schema.Validation}

theorem onValidating_valid (fetch : σ → String → Except Fetch.Cause (List UInt8) × σ)
    (hAnswer : validator.validate ⟨request.source.kind, run.version⟩ run.url run.bytes =
      .ok validation) (hValid : validation.isValid = true) :
    onValidating (.withValidator fetch validator) request run =
      ({ run with
        warnings := run.warnings ++ validator.warnings ⟨request.source.kind, run.version⟩
        space := validation.space
        validationError := none }, .ok .validated) := by
  simp only [onValidating, Services.withValidator, hAnswer, hValid, if_true]
  rfl

theorem onValidating_invalid (fetch : σ → String → Except Fetch.Cause (List UInt8) × σ)
    (hAnswer : validator.validate ⟨request.source.kind, run.version⟩ run.url run.bytes =
      .ok validation) (hValid : validation.isValid = false)
    (hUnavailable : validation.isUnavailable = false) :
    onValidating (.withValidator fetch validator) request run =
      ({ run with
        warnings := run.warnings ++ validator.warnings ⟨request.source.kind, run.version⟩
        validationError := validation.error }, .ok .validationFailed) := by
  simp only [onValidating, Services.withValidator, hAnswer, hValid, hUnavailable]
  rfl

theorem onValidating_unchecked (fetch : σ → String → Except Fetch.Cause (List UInt8) × σ)
    (hAnswer : validator.validate ⟨request.source.kind, run.version⟩ run.url run.bytes =
      .ok validation) (hValid : validation.isValid = false)
    (hUnavailable : validation.isUnavailable = true) :
    onValidating (.withValidator fetch validator) request run =
      ({ run with
        warnings := run.warnings ++ validator.warnings ⟨request.source.kind, run.version⟩
        validationError := validation.error }, .ok .validatorMissing) := by
  simp only [onValidating, Services.withValidator, hAnswer, hValid, hUnavailable]
  rfl

theorem onValidating_error (fetch : σ → String → Except Fetch.Cause (List UInt8) × σ)
    (run : Run σ) {breakdown : Schema.Breakdown}
    (hAnswer : validator.validate ⟨request.source.kind, run.version⟩ run.url run.bytes =
      .error breakdown) :
    ∃ after, onValidating (.withValidator fetch validator) request run =
      (after, .error .breakdown) := by
  simp only [onValidating, Services.withValidator, hAnswer]
  exact ⟨_, rfl⟩

end Checking

theorem step_validatorMissing (services : Services σ) (request : Request) (run : Run σ) :
    step services request run .validatorMissing =
      ({ run with error := run.validationError, errorKind := some .validatorMissing },
        .ok .failed) :=
  rfl

/-- A valid document that cannot be read ends the load. -/
theorem Leads.onValid_unreadable
    (hLeads : Leads services request used before (.validated, run)) {error : Xml.ReadError}
    (hRead : Xml.read run.bytes = .error error) (hEncoding : ∀ fault, error ≠ .encoding fault) :
    ∃ reports warnings trace, Leads services request (used + 1) before (.failed,
      { run with
        reports
        warnings
        trace
        error := run.error.or (some "Failed to parse XML document")
        errorKind := if run.error.isSome then run.errorKind else some .parseFailed }) := by
  have hStep : ∃ reports warnings, onValid run =
      ({ run with
        reports
        warnings
        error := run.error.or (some "Failed to parse XML document")
        errorKind := if run.error.isSome then run.errorKind else some .parseFailed },
        .ok .failed) := by
    cases error with
    | encoding fault => exact absurd rfl (hEncoding fault)
    | malformed | misnamed =>
        simp only [onValid, hRead, Run.softFail_eq, Run.report, Run.warn]
        exact ⟨_, _, rfl⟩
  obtain ⟨reports, warnings, hStep⟩ := hStep
  exact ⟨_, _, _, hLeads.andThen rfl hStep⟩

/-- A valid document that can be read goes on to its packages. -/
theorem Leads.onValid_read
    (hLeads : Leads services request used before (.validated, run)) {root : Xml.Tree}
    (hRead : Xml.read run.bytes = .ok root) :
    ∃ reports trace, Leads services request (used + 1) before (.parsing,
      { run with reports, trace, document := some root, error := none, errorKind := none }) := by
  have hStep : ∃ reports, onValid run =
      ({ run with reports, document := some root, error := none, errorKind := none },
        .ok .parsing) := by
    simp only [onValid, hRead, Run.reportAlternate, Run.report]
    split <;> exact ⟨_, rfl⟩
  obtain ⟨reports, hStep⟩ := hStep
  exact ⟨_, _, hLeads.andThen rfl hStep⟩

theorem onProbing_none
    (hSalvage : Package.Salvage.ofBytes request.source.kind run.bytes = .ok none) :
    onProbing request run = (run, .ok .probeFailed) := by
  simp only [onProbing, hSalvage]

theorem onProbing_some {root : Xml.Tree}
    (hSalvage : Package.Salvage.ofBytes request.source.kind run.bytes = .ok (some root)) :
    onProbing request run =
      ({ run with
        document := some root
        space := some request.family.latestSpace
        isSalvaged := true
        validationError := none
        error := none
        errorKind := none }, .ok .probed) := by
  simp only [onProbing, hSalvage]

/-- A salvaged document goes on to its packages. -/
theorem Leads.probed
    (hLeads : Leads services request used before (.probed, run)) :
    ∃ reports trace, Leads services request (used + 1) before
      (.parsing, { run with reports, trace }) := by
  have hStep : ∃ reports, step services request run .probed =
      ({ run with reports }, .ok .parsing) := by
    simp only [step, Run.reportAlternate, Run.report]
    split <;> exact ⟨_, rfl⟩
  obtain ⟨reports, hStep⟩ := hStep
  have hParsing := hLeads.andThen rfl hStep
  exact ⟨_, _, hParsing⟩

/-- A document that lists its packages ends the load. -/
theorem Leads.onParsing_listed
    (hLeads : Leads services request used before (.parsing, run)) {root : Xml.Tree}
    {packages : List Package} {space : String}
    (hDocument : run.document = some root) (hSpace : run.space = some space)
    (hPackages : (Package.Index.ofDocument request.source.kind space run.url root).packages =
      some packages) (hError : run.error = none) (hKind : run.errorKind = none) :
    ∃ reports warnings trace, Leads services request (used + 1) before (.parsed,
      { run with
        reports
        warnings
        trace
        error := if run.isSalvaged then some request.hint.info else none
        errorKind := if run.isSalvaged then some .unsupportedSchema else none
        packages := some packages
        description := (if run.isSalvaged then request.hint.description else run.description) ++
          "\n" ++ countSummary packages.length }) := by
  have hStep : ∃ reports warnings, onParsing request run =
      ({ run with
        reports
        warnings
        error := if run.isSalvaged then some request.hint.info else none
        errorKind := if run.isSalvaged then some .unsupportedSchema else none
        packages := some packages
        description := (if run.isSalvaged then request.hint.description else run.description) ++
          "\n" ++ countSummary packages.length }, .ok .parsed) := by
    cases hSalvaged : run.isSalvaged with
    | true =>
        simp only [onParsing, Run.report, Run.warn, hDocument, hSpace, Option.getD_some, hPackages,
          hError, hSalvaged, if_true]
        exact ⟨_, _, rfl⟩
    | false =>
        simp only [onParsing, Run.report, Run.warn, hDocument, hSpace, Option.getD_some, hPackages,
          hError, hKind, hSalvaged]
        exact ⟨_, _, rfl⟩
  obtain ⟨reports, warnings, hStep⟩ := hStep
  exact ⟨_, _, _, hLeads.andThen rfl hStep⟩

/-- A document that may have a better one at the index file brings the load to a state from which it
goes there, if it has not been there. -/
theorem Leads.leadsOn {attempt : Attempt}
    (hLeads : Leads (.withValidator fetch validator) request used before (.fetched, run))
    (hJudged : Judged validator request.source.kind run.url run.bytes attempt)
    (hLeadsOn : attempt.leadsOn = true) :
    ∃ (more : Nat) (state : State) (ready marked : Run σ), more ≤ used + 4 ∧
      state.isFinal = false ∧
      Leads (.withValidator fetch validator) request more before (state, ready) ∧
      marked.bare = (attempt.mark request run).bare ∧
      step (.withValidator fetch validator) request ready state =
        if marked.canRetry request then marked.retry (.withValidator fetch validator) request
        else (marked, .ok .failed) := by
  cases hJudged with
  | unrecognized hVersion =>
      obtain ⟨reports, trace, hReady⟩ := hLeads.noVersion hVersion
      refine ⟨_, _, _, _, by omega, rfl, hReady, ?_, rfl⟩
      rw [Run.softFail_eq]
      rfl
  | invalid hVersion hSupports hAnswer hValid hUnavailable =>
      obtain ⟨reports, trace, hChecking⟩ := hLeads.validating hVersion hSupports
      have hReady := hChecking.andThen rfl (onValidating_invalid fetch hAnswer hValid hUnavailable)
      refine ⟨_, _, _, _, by omega, rfl, hReady, ?_, rfl⟩
      rfl
  | unchecked | unreadable | read | tooNew | salvaged => cases hLeadsOn

/-- Any other document ends the load. -/
theorem Leads.final {attempt : Attempt}
    (hLeads : Leads (.withValidator fetch validator) request used before (.fetched, run))
    (hJudged : Judged validator request.source.kind run.url run.bytes attempt)
    (hPlain : run.isSalvaged = false) (hEnds : attempt.leadsOn = false) :
    ∃ (more : Nat) (after : Run σ), more ≤ used + 6 ∧
      Leads (.withValidator fetch validator) request more before (attempt.final, after) ∧
      after.bare = (attempt.mark request run).bare := by
  cases hJudged with
  | unrecognized | invalid => cases hEnds
  | unchecked hVersion hSupports hAnswer hValid hUnavailable =>
      obtain ⟨reports, trace, hChecking⟩ := hLeads.validating hVersion hSupports
      have hChecked :=
        hChecking.andThen rfl (onValidating_unchecked fetch hAnswer hValid hUnavailable)
      have hFailed := hChecked.andThen rfl (step_validatorMissing _ _ _)
      exact ⟨_, _, by omega, hFailed, rfl⟩
  | unreadable hVersion hSupports hAnswer hValid hRead =>
      obtain ⟨reports, trace, hChecking⟩ := hLeads.validating hVersion hSupports
      have hChecked := hChecking.andThen rfl (onValidating_valid fetch hAnswer hValid)
      have hEncoding := Feed.read_encoding_of_version hVersion
        (Feed.Family.ne_zero_of_supports hSupports)
      obtain ⟨_, _, _, hFailed⟩ := hChecked.onValid_unreadable hRead
        fun fault hFault => hEncoding fault (hRead.trans (by rw [hFault]))
      refine ⟨_, _, by omega, hFailed, ?_⟩
      rw [Schema.Validator.validate_space hAnswer hValid]
      rfl
  | read hVersion hSupports hAnswer hValid hRead =>
      obtain ⟨reports, trace, hChecking⟩ := hLeads.validating hVersion hSupports
      have hChecked := hChecking.andThen rfl (onValidating_valid fetch hAnswer hValid)
      obtain ⟨_, _, hParsing⟩ := hChecked.onValid_read hRead
      have hName := Feed.read_root_of_version hVersion
        (Feed.Family.ne_zero_of_supports hSupports) hRead
      have hSpace := Schema.Validator.validate_space hAnswer hValid
      obtain ⟨_, _, _, hListed⟩ := hParsing.onParsing_listed rfl hSpace
        (Index.packages_of_name hName) rfl rfl
      refine ⟨_, _, by omega, hListed, ?_⟩
      simp only [Run.bare, Attempt.mark, hSpace, hPlain]
      rfl
  | tooNew hVersion hSupports hNewer hSalvage =>
      obtain ⟨reports, trace, hProbing⟩ := hLeads.probing hVersion hSupports hNewer
      have hProbed := hProbing.andThen rfl (onProbing_none hSalvage)
      have hFailed := hProbed.andThen rfl rfl
      exact ⟨_, _, by omega, hFailed, rfl⟩
  | salvaged hVersion hSupports hNewer hSalvage =>
      obtain ⟨reports, trace, hProbing⟩ := hLeads.probing hVersion hSupports hNewer
      have hProbed := hProbing.andThen rfl (onProbing_some hSalvage)
      obtain ⟨_, _, hParsing⟩ := hProbed.probed
      obtain ⟨_, _, _, hSalvaged⟩ := Package.Salvage.ofBytes_eq_some hSalvage
      obtain ⟨_, _, _, hListed⟩ := hParsing.onParsing_listed rfl rfl
        (Index.packages_of_name (Package.Salvage.ofDocument?_name hSalvaged)) rfl rfl
      exact ⟨_, _, by omega, hListed, rfl⟩

end Steps

end SdkFeed.Load
