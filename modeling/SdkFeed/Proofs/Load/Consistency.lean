import SdkFeed.Proofs.Load.Returning
import SdkFeed.Proofs.Load.Specification
import SdkFeed.Proofs.Package.Listing

/-! The fields of an outcome fit together. What an attempt comes to says how its version, its error
and its packages belong to each other; a load takes all of these from one attempt but for the version
and the error of the check, which are those of the last document. The two part where the last document
passes the check and still cannot be read. -/
namespace SdkFeed.Feed

theorem Kind.eq_repository_of_isTrusted {kind : Kind} (hTrusted : kind.isTrusted = true) :
    kind = .repository := by
  cases kind with
  | repository => rfl
  | addon => cases hTrusted

end SdkFeed.Feed

namespace SdkFeed.Load

open SdkFeed.Feed (Kind)

/-- A document passes the check and still cannot be read. -/
def IsUnreadable (kind : Kind) (bytes : List UInt8) : Prop :=
  ∃ version error, Feed.detectVersion kind bytes = .ok version ∧
    (Schema.Edition.mk kind version).isPublished = true ∧
    (Schema.Edition.mk kind version).judge bytes = .ok .valid ∧ Xml.read bytes = .error error

/-- The packages are in listing order. -/
def IsListed (packages : List Package) : Prop :=
  packages.Pairwise fun a b => b.precedes a = false

/-- How the parts of an attempt belong to each other. -/
def Attempt.IsFitting (kind : Kind) : Attempt → Prop
  | unfetched _ | unrecognized => True
  | invalid _ error | unchecked _ error => error.isSome = true
  | tooNew version => kind.family.latest < version
  | unreadable _ => True
  | usable version false packages => kind.family.supports version = true ∧ IsListed packages
  | usable version true packages => kind.isTrusted = true ∧ kind.family.latest < version ∧
      IsListed packages ∧ ∀ package ∈ packages, package.kind = .tool ∨ package.kind = .platformTool

namespace Attempt

variable {validator : Schema.Validator} {kind : Kind} {url : String} {bytes : List UInt8}
  {attempt : Attempt}

theorem isFitting_of_judged (hJudged : Judged validator kind url bytes attempt) :
    attempt.IsFitting kind := by
  cases hJudged with
  | unrecognized => trivial
  | invalid _ _ hAnswer hValid | unchecked _ _ hAnswer hValid =>
      exact Schema.Validator.validate_error hAnswer hValid
  | unreadable => trivial
  | read _ hSupports => exact ⟨hSupports, Package.sorted_pairwise _⟩
  | tooNew _ _ hNewer => exact hNewer
  | salvaged _ _ hNewer hSalvage =>
      obtain ⟨hTrusted, document, _, hDocument⟩ := Package.Salvage.ofBytes_eq_some hSalvage
      refine ⟨hTrusted, hNewer, Package.sorted_pairwise _, fun package hListed => ?_⟩
      exact Package.Salvage.entries_isTool hDocument (List.mem_mergeSort.mp hListed)

theorem isUnreadable_of_judged {version : Nat}
    (hJudged : Judged validator kind url bytes (.unreadable version)) :
    IsUnreadable kind bytes := by
  cases hJudged with
  | unreadable hVersion hSupports hAnswer hValid hRead =>
      obtain ⟨hPublished, hJudge⟩ := Schema.Validator.Passes.judge ⟨_, hAnswer, hValid⟩
      exact ⟨version, _, hVersion, hPublished, hJudge, hRead⟩

theorem isFitting_of_ofAnswer {answer : Except Fetch.Cause (List UInt8)}
    (hAttempt : ofAnswer validator kind url answer = .ok attempt) : attempt.IsFitting kind := by
  cases answer with
  | error cause =>
      obtain rfl := Except.ok.inj hAttempt
      trivial
  | ok bytes => exact isFitting_of_judged (ofBytes_judged hAttempt)

theorem isUnreadable_of_ofAnswer {answer : Except Fetch.Cause (List UInt8)} {version : Nat}
    (hAttempt : ofAnswer validator kind url answer = .ok (.unreadable version)) :
    ∃ bytes, answer = .ok bytes ∧ IsUnreadable kind bytes := by
  cases answer with
  | error cause => cases hAttempt
  | ok bytes => exact ⟨bytes, rfl, isUnreadable_of_judged (ofBytes_judged hAttempt)⟩

end Attempt

/-- The outcome of a load that brought the packages of a document whose version is understood. -/
structure Outcome.IsPlain (request : Request) (outcome : Outcome) : Prop where
  packages : ∃ packages, outcome.packages = some packages ∧ IsListed packages
  error : outcome.error = none ∧ outcome.errorKind = none ∧ outcome.validationError = none
  version : request.family.supports outcome.version = true
  space : outcome.space = some (request.family.space outcome.version)
  needsUpgrade : outcome.needsUpgrade = false

/-- The outcome of a load that brought the tools of a document of a newer version. -/
structure Outcome.IsSalvage (request : Request) (outcome : Outcome) : Prop where
  source : request.source.kind = .repository
  packages : ∃ packages, outcome.packages = some packages ∧ IsListed packages ∧
    ∀ package ∈ packages, package.kind = .tool ∨ package.kind = .platformTool
  error : outcome.error = some request.hint.info ∧ outcome.errorKind = some .unsupportedSchema ∧
    outcome.validationError = none
  version : request.family.latest < outcome.version
  space : outcome.space = some request.family.latestSpace
  needsUpgrade : outcome.needsUpgrade = true

/-- The outcome of a load that failed. `spoiled` tells that one of its documents passes the check and
still cannot be read. -/
structure Outcome.IsFailure (request : Request) (spoiled : Prop) (outcome : Outcome) : Prop where
  packages : outcome.packages = none ∧ outcome.space = none ∧ outcome.needsUpgrade = false
  url : outcome.url = request.source.url
  description : outcome.description =
    Source.defaultDescription request.source.kind request.source.name request.source.url
  error : outcome.error.isSome = true
  errorKind : match outcome.errorKind with
    | some .fetchNotFound | some .fetchInsecure | some .fetchBroken =>
      outcome.version = 0 ∧ outcome.validationError = none
    | some .validatorMissing => outcome.error = outcome.validationError
    | some .documentInvalid => outcome.error = outcome.validationError ∨ spoiled
    | some .unrecognizedDocument =>
      outcome.validationError = none ∧ (outcome.version = 0 ∨ spoiled)
    | some .unsupportedSchema => request.family.latest < outcome.version
    | some .parseFailed => spoiled
    | none => False

/-- An outcome whose parts belong to each other. -/
def Outcome.IsConsistent (request : Request) (spoiled : Prop) (outcome : Outcome) : Prop :=
  outcome.state = .parsed ∧ (outcome.IsPlain request ∨ outcome.IsSalvage request) ∨
    outcome.state = .failed ∧ outcome.IsFailure request spoiled

/-- What is known at the end of a load with a deciding attempt: its last document, and the error of
the check. -/
inductive Settled : Attempt → Attempt → Option String → Prop where
  | unfetched {failure : Fetch.Failure} {last : Attempt} (hVersion : last.version = 0) :
      Settled (.unfetched failure) last none
  | unrecognized {last : Attempt}
      (hLast : last.version = 0 ∨ ∃ version, last = .unreadable version) :
      Settled .unrecognized last none
  | invalid {version : Nat} {error checkError : Option String} {last : Attempt}
      (hLast : error = checkError ∨ ∃ version, last = .unreadable version) :
      Settled (.invalid version error) last checkError
  | unchecked {version : Nat} {error : Option String} :
      Settled (.unchecked version error) (.unchecked version error) error
  | tooNew {version : Nat} {checkError : Option String} :
      Settled (.tooNew version) (.tooNew version) checkError
  | unreadable {version : Nat} : Settled (.unreadable version) (.unreadable version) none
  | usable {version : Nat} {isSalvaged : Bool} {packages : List Package} :
      Settled (.usable version isSalvaged packages) (.usable version isSalvaged packages) none

namespace Settled

theorem single (first : Attempt) : Settled first first (first.checkError none) := by
  cases first with
  | unfetched | unrecognized => constructor; first | rfl | exact .inl rfl
  | invalid => exact .invalid (.inl rfl)
  | unchecked | tooNew | unreadable | usable => constructor

end Settled

namespace Trial

/-- What the first attempt tells stays known only as far as the second one leaves it. -/
theorem settled {trial : Trial} (request : Request) (forceOpen : Bool)
    (hLeadsOn : ∀ second, trial.second? = some second → trial.first.leadsOn = true) :
    Settled (trial.decisive request forceOpen).1 trial.last trial.checkError := by
  obtain ⟨first, second?⟩ := trial
  cases second? with
  | none => exact .single first
  | some second =>
      cases first with
      | unfetched =>
          cases second with
          | unfetched => exact .unfetched rfl
          | unrecognized | invalid | unchecked | tooNew | unreadable | usable => exact .single _
      | unrecognized =>
          cases second with
          | unfetched | unrecognized => exact .unrecognized (.inl rfl)
          -- The error of the first document stays, with the version of the second.
          | unreadable version => exact .unrecognized (.inr ⟨version, rfl⟩)
          | tooNew => exact .tooNew
          | invalid | unchecked | usable => exact .single _
      | invalid =>
          cases second with
          | unfetched | unrecognized => exact .invalid (.inl rfl)
          -- The second document passes the check, which takes back the error of the first.
          | unreadable version => exact .invalid (.inr ⟨version, rfl⟩)
          | tooNew => exact .tooNew
          | invalid | unchecked | usable => exact .single _
      | unchecked | tooNew | unreadable | usable => cases hLeadsOn second rfl

variable {trial : Trial} {request : Request} {forceOpen : Bool} {spoiled : Prop}

/-- The outcome of a load is that of its deciding attempt. -/
theorem outcome_fits
    (hSettled : Settled (trial.decisive request forceOpen).1 trial.last trial.checkError)
    (hFitting : (trial.decisive request forceOpen).1.IsFitting request.source.kind)
    (hSpoiled : ∀ version, trial.last = .unreadable version → spoiled) :
    (trial.outcome request forceOpen).IsConsistent request spoiled := by
  simp only [Outcome.IsConsistent, outcome]
  rcases hDecisive : trial.decisive request forceOpen with ⟨attempt, url⟩
  rw [hDecisive] at hSettled hFitting
  generalize trial.last = last, trial.checkError = checkError at hSettled hSpoiled ⊢
  cases hSettled with
  | unfetched hVersion =>
      refine .inr ⟨rfl, ⟨rfl, rfl, rfl⟩, rfl, rfl, rfl, ?_⟩
      rename_i failure
      cases failure with
      | notFound | insecure | broken => exact ⟨hVersion, rfl⟩
  | unrecognized hLast =>
      refine .inr ⟨rfl, ⟨rfl, rfl, rfl⟩, rfl, rfl, rfl, rfl, hLast.imp_right ?_⟩
      rintro ⟨version, hUnreadable⟩
      exact hSpoiled version hUnreadable
  | invalid hLast =>
      refine .inr ⟨rfl, ⟨rfl, rfl, rfl⟩, rfl, rfl, hFitting, hLast.imp_right ?_⟩
      rintro ⟨version, hUnreadable⟩
      exact hSpoiled version hUnreadable
  | unchecked => exact .inr ⟨rfl, ⟨rfl, rfl, rfl⟩, rfl, rfl, hFitting, rfl⟩
  | tooNew => exact .inr ⟨rfl, ⟨rfl, rfl, rfl⟩, rfl, rfl, rfl, hFitting⟩
  | unreadable => exact .inr ⟨rfl, ⟨rfl, rfl, rfl⟩, rfl, rfl, rfl, hSpoiled _ rfl⟩
  | usable =>
      rename_i version isSalvaged packages
      cases isSalvaged with
      | false =>
          obtain ⟨hSupports, hListed⟩ := hFitting
          exact .inl ⟨rfl, .inl ⟨⟨packages, rfl, hListed⟩, ⟨rfl, rfl, rfl⟩, hSupports, rfl, rfl⟩⟩
      | true =>
          obtain ⟨hTrusted, hNewer, hListed, hTools⟩ := hFitting
          exact .inl ⟨rfl, .inr ⟨Feed.Kind.eq_repository_of_isTrusted hTrusted,
            ⟨packages, rfl, hListed, hTools⟩, ⟨rfl, rfl, rfl⟩, hNewer, rfl, rfl⟩⟩

end Trial

variable {σ : Type} {fetch : σ → String → Except Fetch.Cause (List UInt8) × σ}
  {validator : Schema.Validator} {request : Request} {forceOpen : Bool} {state : σ}

/-- The last document of a load that cannot be read is one that the load looks at. -/
theorem Trial.last_spoils {trial : Trial}
    (hTrial : ofLoad fetch validator request forceOpen state = .ok trial) {version : Nat}
    (hLast : trial.last = .unreadable version) :
    ∃ bytes, Meets fetch validator request forceOpen state bytes ∧
      IsUnreadable request.source.kind bytes := by
  obtain ⟨hFirst, hSecond⟩ := ofLoad_eq_ok hTrial
  obtain ⟨first, second?⟩ := trial
  cases second? with
  | none =>
      obtain rfl : first = .unreadable version := hLast
      obtain ⟨bytes, hFetch, hUnreadable⟩ := Attempt.isUnreadable_of_ofAnswer hFirst
      exact ⟨bytes, .first hFetch, hUnreadable⟩
  | some second =>
      obtain ⟨hOn, hAnswer⟩ := hSecond
      obtain ⟨hLeadsOn, hEnds⟩ := Attempt.leadsOn_and.mp hOn
      have hSame : second = .unreadable version := by
        simp only [last] at hLast
        split at hLast
        · exact hLast
        · subst hLast
          cases hLeadsOn
      subst hSame
      obtain ⟨bytes, hFetch, hUnreadable⟩ := Attempt.isUnreadable_of_ofAnswer hAnswer
      exact ⟨bytes, .second hFirst hLeadsOn hEnds hFetch, hUnreadable⟩

/-- Both attempts of a load fit, so the deciding one does. -/
theorem Trial.decisive_isFitting {trial : Trial}
    (hTrial : ofLoad fetch validator request forceOpen state = .ok trial) :
    (trial.decisive request forceOpen).1.IsFitting request.source.kind := by
  obtain ⟨hFirst, hSecond⟩ := ofLoad_eq_ok hTrial
  rw [decisive]
  split
  · exact Attempt.isFitting_of_ofAnswer hFirst
  · rename_i second hSome
    rw [hSome] at hSecond
    split
    · exact Attempt.isFitting_of_ofAnswer hSecond.2
    · exact Attempt.isFitting_of_ofAnswer hFirst

/-- The outcome of every load is consistent, whether or not there is anything to check documents with. A
load that ends well brings packages in listing order, either of a version that is understood and
without any error, or tools of a newer one along with the hint to update; a load that fails brings an
error whose kind fits the version and the error of the check, unless one of its documents passes the
check and still cannot be read. -/
theorem load_outcome_consistent {outcome : Outcome}
    (hLoad : (load (.withValidator fetch validator) request forceOpen state).2 = .ok outcome) :
    outcome.IsConsistent request (∃ bytes, Meets fetch validator request forceOpen state bytes ∧
      IsUnreadable request.source.kind bytes) := by
  cases hTrial : Trial.ofLoad fetch validator request forceOpen state with
  | error crash =>
      rw [crashes_of_ofLoad hTrial] at hLoad
      cases hLoad
  | ok trial =>
      rw [(agrees_of_ofLoad hTrial).outcome] at hLoad
      obtain rfl := Except.ok.inj hLoad
      refine Trial.outcome_fits (trial.settled request forceOpen fun second hSome => ?_)
        (Trial.decisive_isFitting hTrial) fun version => Trial.last_spoils hTrial
      exact ((Trial.second?_isSome hTrial).mp (by rw [hSome]; rfl)).1

/-- Serve a document at one address, and nothing anywhere else. -/
def servingAt (address : String) (document : List UInt8) (_ : Unit) (url : String) :
    Except Fetch.Cause (List UInt8) × Unit :=
  (if url = address then .ok document else .error (.failure (.notFound url)), ())

/-- The attempts at a repository whose index is found over the open scheme, below the address it was
asked for. -/
def openTrial : Trial where
  first := .unfetched (.notFound "http://sdk.test/dir")
  second? := some (.usable 3 false
    [{ sourceUrl := "http://sdk.test/dir/repository.xml", revision := 1
       archives := [{ url := "a", size := 1, checksum := "0123456789012345678901234567890123456789" }]
       variant := .platformTool }])

theorem ofLoad_toolIndex :
    Trial.ofLoad (servingAt "http://sdk.test/dir/repository.xml" toolIndex) .standard
      (.ofUrl "https://sdk.test/dir") true () = .ok openTrial := by
  decide +kernel

/-- A load that goes over to the index file and brings its package is consistent, and so is one that has
nothing to check the index with. -/
theorem open_load_consistent :
    (∃ outcome, (load (.withValidator (servingAt "http://sdk.test/dir/repository.xml" toolIndex)
        .standard) (.ofUrl "https://sdk.test/dir") true ()).2 = .ok outcome ∧
      outcome.packages.map List.length = some 1 ∧
      outcome.IsConsistent (.ofUrl "https://sdk.test/dir") (∃ bytes,
        Meets (servingAt "http://sdk.test/dir/repository.xml" toolIndex) .standard
          (.ofUrl "https://sdk.test/dir") true () bytes ∧ IsUnreadable .repository bytes)) ∧
    ∃ outcome, (load (.withValidator (servingAt "http://sdk.test/dir/repository.xml" toolIndex)
        ⟨false⟩) (.ofUrl "https://sdk.test/dir") true ()).2 = .ok outcome ∧
      outcome.errorKind = some .validatorMissing ∧
      outcome.IsConsistent (.ofUrl "https://sdk.test/dir") (∃ bytes,
        Meets (servingAt "http://sdk.test/dir/repository.xml" toolIndex) ⟨false⟩
          (.ofUrl "https://sdk.test/dir") true () bytes ∧ IsUnreadable .repository bytes) := by
  have hLoad := (agrees_of_ofLoad ofLoad_toolIndex).outcome
  have hUnchecked : Trial.ofLoad (servingAt "http://sdk.test/dir/repository.xml" toolIndex) ⟨false⟩
      (.ofUrl "https://sdk.test/dir") true () =
        .ok ⟨.unfetched (.notFound "http://sdk.test/dir"), some (.unchecked 3
          (Schema.Validation.unavailable "http://sdk.test/dir/repository.xml").error)⟩ := by
    decide +kernel
  have hFailed := (agrees_of_ofLoad hUnchecked).outcome
  exact ⟨⟨_, hLoad, rfl, load_outcome_consistent hLoad⟩,
    _, hFailed, rfl, load_outcome_consistent hFailed⟩

/-- An empty index with an attribute that no version knows. -/
def unrulyIndex : List UInt8 :=
  asciiBytes (indexTag ++ [' ', 'x', '=', '"', '"', '/', '>'])

/-- The error of the check is forgotten where the second document passes it and still cannot be
read. -/
theorem unruly_load_forgets :
    ∃ outcome, (load (.withValidator serving .standard) (.ofUrl "https://sdk.test/dir") false
        [unrulyIndex, misnamedIndex]).2 = .ok outcome ∧
      outcome.errorKind = some .documentInvalid ∧ outcome.error.isSome = true ∧
      outcome.validationError = none := by
  have hTrial : Trial.ofLoad serving .standard (.ofUrl "https://sdk.test/dir") false
      [unrulyIndex, misnamedIndex] =
        .ok ⟨.invalid 3 (some ("XML verification failed for https://sdk.test/dir.\n" ++
          "Line 1:0, Error: Element " ++
          "'\x7bhttp://schemas.android.com/sdk/android/repository/3\x7dsdk-repository', " ++
          "attribute 'x': The attribute 'x' is not allowed.")), some (.unreadable 3)⟩ := by
    decide +kernel
  exact ⟨_, (agrees_of_ofLoad hTrial).outcome, rfl, rfl, rfl⟩

end SdkFeed.Load
