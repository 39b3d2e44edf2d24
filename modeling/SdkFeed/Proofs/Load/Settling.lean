import SdkFeed.Proofs.Load.Consistency
import SdkFeed.Proofs.Package.Reading
import SdkFeed.Proofs.Source.Scheme

/-! Loading a source over again where the same is fetched from the same address each time. A load that
ended well goes straight to the address that served it and brings the same packages; a load that
failed fails in the same way. -/
namespace SdkFeed.Load

open SdkFeed.Feed (Kind)

variable {σ : Type} {fetch : σ → String → Except Fetch.Cause (List UInt8) × σ}
  {answer : String → Except Fetch.Cause (List UInt8)} {validator : Schema.Validator}
  {request : Request} {forceOpen : Bool} {state : σ}

/-- The request for the source after a load of it. -/
def Request.after (request : Request) (outcome : Outcome) : Request :=
  ⟨request.source.apply outcome, request.hint⟩

theorem Request.indexFile_congr {other : Request} (hKind : other.source.kind = request.source.kind) :
    other.indexFile = request.indexFile := by
  rw [indexFile, family, hKind, indexFile, family]

theorem Request.address_congr {other : Request} (hUrl : other.source.url = request.source.url) :
    other.address forceOpen = request.address forceOpen := by
  rw [address, hUrl, address]

theorem Request.fallback_congr {other : Request} (hKind : other.source.kind = request.source.kind)
    (hUrl : other.source.url = request.source.url) :
    other.fallback forceOpen = request.fallback forceOpen := by
  rw [fallback, address_congr hUrl, indexFile_congr hKind, fallback]

/-- A document is usable as it is read from an address. -/
structure Serves (validator : Schema.Validator) (kind : Kind)
    (answer : String → Except Fetch.Cause (List UInt8)) (url : String) (attempt : Attempt) :
    Prop where
  read : Attempt.ofAnswer validator kind url (answer url) = .ok attempt
  usable : attempt.isUsable = true

theorem Attempt.isUsable_iff {attempt : Attempt} : attempt.isUsable = true ↔
    ∃ version isSalvaged packages, attempt = .usable version isSalvaged packages := by
  constructor
  · intro hUsable
    cases attempt with
    | usable version isSalvaged packages => exact ⟨version, isSalvaged, packages, rfl⟩
    | unfetched | unrecognized | invalid | unchecked | tooNew | unreadable => cases hUsable
  · rintro ⟨version, isSalvaged, packages, rfl⟩
    rfl

theorem Attempt.leadsOn_of_isUsable {attempt : Attempt} (hUsable : attempt.isUsable = true) :
    attempt.leadsOn = false := by
  obtain ⟨version, isSalvaged, packages, rfl⟩ := isUsable_iff.mp hUsable
  rfl

theorem Agrees.load_eq {trial : Trial}
    (hAgrees : Agrees fetch validator request forceOpen state trial) :
    ∃ run, load (.withValidator fetch validator) request forceOpen state =
        (run, .ok (trial.outcome request forceOpen)) ∧
      run.calls = trial.addresses request forceOpen :=
  ⟨_, Prod.ext rfl hAgrees.outcome, hAgrees.calls⟩

theorem listing_sourceUrl {kind : Kind} {space url : String} {root : Xml.Tree} {package : Package}
    (hListed : package ∈ listing kind space url root) : package.sourceUrl = url :=
  Package.sourceUrl_of_listed (List.mem_mergeSort.mp hListed)

/-- The packages of a usable document name the address it was read from. -/
theorem Serves.sourceUrl {kind : Kind} {url : String} {version : Nat} {isSalvaged : Bool}
    {packages : List Package} {package : Package}
    (hServes : Serves validator kind answer url (.usable version isSalvaged packages))
    (hListed : package ∈ packages) : package.sourceUrl = url := by
  have hAttempt := hServes.read
  cases hAnswer : answer url with
  | error cause =>
      rw [hAnswer] at hAttempt
      cases hAttempt
  | ok bytes =>
      rw [hAnswer] at hAttempt
      cases Attempt.ofBytes_judged hAttempt with
      | read => exact listing_sourceUrl hListed
      | salvaged => exact listing_sourceUrl hListed

namespace Trial

/-- A usable document at the first address is all that a load looks at. -/
theorem ofLoad_of_serves {attempt : Attempt}
    (hAnswers : ∀ state url, (fetch state url).1 = answer url)
    (hServes : Serves validator request.source.kind answer (request.address forceOpen) attempt) :
    ofLoad fetch validator request forceOpen state = .ok ⟨attempt, none⟩ := by
  have hFirst : Attempt.ofAnswer validator request.source.kind (request.address forceOpen)
      (fetch state (request.address forceOpen)).1 = .ok attempt := by
    rw [hAnswers]
    exact hServes.read
  refine bind_eq_ok.mpr ⟨attempt, hFirst, if_neg ?_⟩
  rw [Attempt.leadsOn_of_isUsable hServes.usable, Bool.false_and]
  exact Bool.false_ne_true

/-- The attempts of a load depend on the kind and the address of the source alone. -/
theorem ofLoad_congr {other : Request} {later : σ}
    (hAnswers : ∀ state url, (fetch state url).1 = answer url)
    (hKind : other.source.kind = request.source.kind) (hUrl : other.source.url = request.source.url) :
    ofLoad fetch validator other forceOpen later =
      ofLoad fetch validator request forceOpen state := by
  simp only [ofLoad, hKind, Request.indexFile_congr hKind, Request.address_congr hUrl,
    Request.fallback_congr hKind hUrl, hAnswers]

theorem outcome_congr {trial : Trial} {other : Request}
    (hKind : other.source.kind = request.source.kind) (hUrl : other.source.url = request.source.url)
    (hName : other.source.name = request.source.name) (hHint : other.hint = request.hint) :
    trial.outcome other forceOpen = trial.outcome request forceOpen := by
  have hFamily : other.family = request.family := by
    rw [Request.family, hKind, Request.family]
  have hDecisive : trial.decisive other forceOpen = trial.decisive request forceOpen := by
    rw [decisive, Request.address_congr hUrl, Request.fallback_congr hKind hUrl, decisive]
  simp only [outcome, hKind, hUrl, hName, hHint, hFamily, Request.indexFile_congr hKind, hDecisive]

/-- The attempts of a load that ends well. -/
inductive Succeeds (validator : Schema.Validator) (answer : String → Except Fetch.Cause (List UInt8))
    (request : Request) (forceOpen : Bool) : Trial → Prop where
  | first {attempt : Attempt}
      (hServes : Serves validator request.source.kind answer (request.address forceOpen) attempt) :
      Succeeds validator answer request forceOpen ⟨attempt, none⟩
  | second {first attempt : Attempt} (hLeadsOn : first.leadsOn = true)
      (hServes : Serves validator request.source.kind answer (request.fallback forceOpen) attempt) :
      Succeeds validator answer request forceOpen ⟨first, some attempt⟩

theorem succeeds_of_ofLoad {trial : Trial}
    (hAnswers : ∀ state url, (fetch state url).1 = answer url)
    (hTrial : ofLoad fetch validator request forceOpen state = .ok trial)
    (hUsable : (trial.decisive request forceOpen).1.isUsable = true) :
    Succeeds validator answer request forceOpen trial := by
  have hEither := (decisive_isUsable hTrial).mp hUsable
  obtain ⟨hFirst, hSecond⟩ := ofLoad_eq_ok hTrial
  obtain ⟨first, second?⟩ := trial
  rw [hAnswers] at hFirst
  cases second? with
  | none =>
      rcases hEither with hFirstUsable | ⟨second, hNone, _⟩
      · exact .first ⟨hFirst, hFirstUsable⟩
      · cases hNone
  | some second =>
      obtain ⟨hOn, hLater⟩ := hSecond
      obtain ⟨hLeadsOn, _⟩ := Attempt.leadsOn_and.mp hOn
      rw [hAnswers] at hLater
      rcases hEither with hFirstUsable | ⟨other, hSome, hOther⟩
      · exact absurd (hLeadsOn.symm.trans (Attempt.leadsOn_of_isUsable hFirstUsable)) nofun
      · cases hSome
        exact .second hLeadsOn ⟨hLater, hOther⟩

/-- The load that follows one that ended well: it looks at the document that served the first one, at
the same address, and brings all that the first one brought. -/
structure Settles (validator : Schema.Validator) (answer : String → Except Fetch.Cause (List UInt8))
    (request : Request) (forceOpen : Bool) (trial : Trial) (version : Nat) (isSalvaged : Bool)
    (packages : List Package) : Prop where
  serves : Serves validator request.source.kind answer
    (fetchUrl forceOpen (trial.outcome request forceOpen).url) (.usable version isSalvaged packages)
  brought : (trial.outcome request forceOpen).packages = some packages
  address : (trial.addresses request forceOpen).getLast? =
    some (fetchUrl forceOpen (trial.outcome request forceOpen).url)
  again : ∃ description,
    (Trial.mk (.usable version isSalvaged packages) none).outcome
        (request.after (trial.outcome request forceOpen)) forceOpen =
      { trial.outcome request forceOpen with description, usedAlternate := false }

theorem Succeeds.settles {trial : Trial}
    (hSucceeds : Succeeds validator answer request forceOpen trial) :
    ∃ version isSalvaged packages,
      Settles validator answer request forceOpen trial version isSalvaged packages := by
  cases hSucceeds with
  | first hServes =>
      obtain ⟨version, isSalvaged, packages, rfl⟩ := Attempt.isUsable_iff.mp hServes.usable
      exact ⟨version, isSalvaged, packages, hServes, rfl, rfl, _, rfl⟩
  | @second first attempt hLeadsOn hServes =>
      obtain ⟨version, isSalvaged, packages, rfl⟩ := Attempt.isUsable_iff.mp hServes.usable
      have hDecisive : (Trial.mk first (some (.usable version isSalvaged packages))).decisive
          request forceOpen = (.usable version isSalvaged packages, request.fallback forceOpen) := by
        cases first <;> rfl
      have hUrl : fetchUrl forceOpen ((Trial.mk first
          (some (.usable version isSalvaged packages))).outcome request forceOpen).url =
            request.fallback forceOpen := by
        rw [outcome, hDecisive]
        exact fetchUrl_alternateUrl request.source.kind forceOpen request.source.url
      refine ⟨version, isSalvaged, packages, hUrl ▸ hServes, ?_, congrArg some hUrl.symm, ?_⟩
      · rw [outcome, hDecisive]
      · cases first with
        | unfetched | unrecognized | invalid => cases isSalvaged <;> exact ⟨_, rfl⟩
        | unchecked | tooNew | unreadable | usable => cases hLeadsOn

end Trial

/-- Loading a source over again, where what is fetched depends on the address alone. After a load
that ended well, the next one fetches only the address that served the first, and brings the same; a
load that failed fails in the same way, and neither of the two changes the source any more. -/
theorem load_settles {run : Run σ} {outcome : Outcome}
    (hAnswers : ∀ state url, (fetch state url).1 = answer url)
    (hLoad : load (.withValidator fetch validator) request forceOpen state = (run, .ok outcome))
    (later : σ) :
    (outcome.isSuccess = true →
      run.calls.getLast? = some (fetchUrl forceOpen outcome.url) ∧
      (∃ packages, outcome.packages = some packages ∧
        ∀ package ∈ packages, package.sourceUrl = fetchUrl forceOpen outcome.url) ∧
      ∃ again description,
        load (.withValidator fetch validator) (request.after outcome) forceOpen later =
          (again, .ok { outcome with description, usedAlternate := false }) ∧
        again.calls = [fetchUrl forceOpen outcome.url]) ∧
    (outcome.isSuccess = false →
      (∃ again, load (.withValidator fetch validator) (request.after outcome) forceOpen later =
        (again, .ok outcome)) ∧
      (request.source.apply outcome).apply outcome = request.source.apply outcome) := by
  have hResult : (load (.withValidator fetch validator) request forceOpen state).2 = .ok outcome := by
    rw [hLoad]
  cases hTrial : Trial.ofLoad fetch validator request forceOpen state with
  | error crash =>
      rw [crashes_of_ofLoad hTrial] at hResult
      cases hResult
  | ok trial =>
      have hAgrees := agrees_of_ofLoad hTrial
      have hCalls := hAgrees.calls
      rw [hLoad] at hCalls
      obtain rfl := Except.ok.inj (hAgrees.outcome.symm.trans hResult)
      constructor
      · intro hSuccess
        have hUsable : (trial.decisive request forceOpen).1.isUsable = true := by
          rw [Outcome.isSuccess, Trial.outcome_state] at hSuccess
          cases hUsable : (trial.decisive request forceOpen).1.isUsable with
          | true => rfl
          | false =>
              rw [hUsable] at hSuccess
              cases hSuccess
        obtain ⟨version, isSalvaged, packages, hSettles⟩ :=
          (Trial.succeeds_of_ofLoad hAnswers hTrial hUsable).settles
        obtain ⟨description, hAgain⟩ := hSettles.again
        have hServed : Trial.ofLoad fetch validator
            (request.after (trial.outcome request forceOpen)) forceOpen later =
              .ok ⟨.usable version isSalvaged packages, none⟩ :=
          Trial.ofLoad_of_serves hAnswers hSettles.serves
        obtain ⟨again, hNext, hNextCalls⟩ := (agrees_of_ofLoad hServed).load_eq
        rw [hAgain] at hNext
        exact ⟨hCalls ▸ hSettles.address, ⟨packages, hSettles.brought, fun package hListed =>
          hSettles.serves.sourceUrl hListed⟩, again, description, hNext, hNextCalls⟩
      · intro hFailure
        -- A load that failed leaves the address as it was, so the next one makes the same attempts.
        obtain ⟨hPackages, hUrl⟩ : (trial.outcome request forceOpen).packages = none ∧
            (trial.outcome request forceOpen).url = request.source.url := by
          rcases load_brings hResult with ⟨hParsed, _⟩ | ⟨_, hNone⟩
          · rw [Outcome.isSuccess, hParsed] at hFailure
            cases hFailure
          · exact hNone
        have hSame : Trial.ofLoad fetch validator
            (request.after (trial.outcome request forceOpen)) forceOpen later = .ok trial := by
          rw [← hTrial]
          exact Trial.ofLoad_congr hAnswers rfl hUrl
        have hOutcome : trial.outcome (request.after (trial.outcome request forceOpen)) forceOpen =
            trial.outcome request forceOpen := Trial.outcome_congr rfl hUrl rfl rfl
        obtain ⟨again, hNext, _⟩ := (agrees_of_ofLoad hSame).load_eq
        rw [hOutcome] at hNext
        refine ⟨⟨again, hNext⟩, ?_⟩
        rw [Source.apply, Source.apply, hPackages]
        rfl

/-- The repository moves to the address of the index file, and a load of it settles there. -/
theorem open_load_settles :
    ∃ run outcome again description,
      load (.withValidator (servingAt "http://sdk.test/dir/repository.xml" toolIndex) .standard)
          (.ofUrl "https://sdk.test/dir") true () = (run, .ok outcome) ∧
      outcome.url = "https://sdk.test/dir/repository.xml" ∧
      load (.withValidator (servingAt "http://sdk.test/dir/repository.xml" toolIndex) .standard)
          (Request.after (.ofUrl "https://sdk.test/dir") outcome) true () =
        (again, .ok { outcome with description, usedAlternate := false }) ∧
      again.calls = ["http://sdk.test/dir/repository.xml"] := by
  have hUrl : (openTrial.outcome (.ofUrl "https://sdk.test/dir") true).url =
      "https://sdk.test/dir/repository.xml" := by decide +kernel
  have hOpened : fetchUrl true "https://sdk.test/dir/repository.xml" =
      "http://sdk.test/dir/repository.xml" := by decide +kernel
  have hAnswers (state : Unit) (url : String) :
      (servingAt "http://sdk.test/dir/repository.xml" toolIndex state url).1 =
        (servingAt "http://sdk.test/dir/repository.xml" toolIndex () url).1 := rfl
  obtain ⟨run, hLoad, _⟩ := (agrees_of_ofLoad ofLoad_toolIndex).load_eq
  obtain ⟨_, _, again, description, hAgain, hCalls⟩ := (load_settles hAnswers hLoad ()).1 rfl
  rw [hUrl, hOpened] at hCalls
  exact ⟨run, _, again, description, hLoad, hUrl, hAgain, hCalls⟩

end SdkFeed.Load
