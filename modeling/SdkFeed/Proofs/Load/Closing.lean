import SdkFeed.Proofs.Load.Stretch

/-! The end of a load, and the outcome that its last run gives. An outcome depends only on what a bare
run keeps, and for each pair of attempts the run that they leave closes with the outcome that the
specification by attempts has for them. -/
namespace SdkFeed.Schema

/-- A document that is not valid comes with an error. -/
theorem Validator.validate_error {validator : Validator} {edition : Edition} {url : String}
    {bytes : List UInt8} {validation : Validation}
    (hAnswer : validator.validate edition url bytes = .ok validation)
    (hValid : validation.isValid = false) : validation.error.isSome = true := by
  rw [validate] at hAnswer
  split at hAnswer
  · obtain rfl := Except.ok.inj hAnswer
    rfl
  · cases hJudge : edition.judge bytes with
    | error breakdown => rw [hJudge] at hAnswer; cases hAnswer
    | ok verdict =>
        rw [hJudge] at hAnswer
        obtain rfl := Except.ok.inj hAnswer
        cases verdict with
        | valid => cases hValid
        | notWellFormed => rfl
        | invalid violation => rfl

end SdkFeed.Schema

namespace SdkFeed.Load

variable {σ : Type} {fetch : σ → String → Except Fetch.Cause (List UInt8) × σ}
  {validator : Schema.Validator} {request : Request} {forceOpen : Bool} {state : σ}

/-- The outcome of a load that ends with a given run. -/
def Run.closing (request : Request) (run : Run σ) (last : State) : Outcome :=
  let isSuccess := last == .parsed
  { url := if isSuccess && run.isAlternate then
        alternateUrl request.source.url request.indexFile else request.source.url
    state := last
    description := run.description
    packages := if isSuccess then run.packages else none
    error := match run.failure with
      | none => run.error
      | some failure => some ((failureTexts failure).1 ++
          ((nonempty run.validationError).map ("\n" ++ ·)).getD "")
    errorKind := match run.failure with
      | none => run.errorKind
      | some failure => some (failureTexts failure).2.1
    validationError := run.validationError
    version := run.version
    space := if isSuccess then run.space else none
    usedAlternate := run.isAlternate
    needsUpgrade := run.isSalvaged }

theorem settleFailure_eq (request : Request) (run : Run σ) :
    ∃ reports, settleFailure run =
      { run with
        reports
        error := (run.closing request .failed).error
        errorKind := (run.closing request .failed).errorKind } := by
  cases hFailure : run.failure with
  | none =>
      simp only [settleFailure, hFailure, Run.closing]
      exact ⟨run.reports, by rw [← hFailure]⟩
  | some failure =>
      simp only [settleFailure, hFailure, Run.closing]
      exact ⟨_, by rw [← hFailure]; rfl⟩

theorem finish_eq (request : Request) (run : Run σ) (last : State) :
    (finish request run last).1.calls = run.calls ∧
      (finish request run last).2 = run.closing request last := by
  obtain ⟨reports, hSettled⟩ := settleFailure_eq request run
  simp only [finish, hSettled]
  split <;> exact ⟨rfl, rfl⟩

/-- A stretch from the start to a final state is all that a load does. -/
theorem Leads.load_eq {services : Services σ} {used : Nat} {last : State} {after : Run σ}
    (hLeads : Leads services request used (.start, .start request forceOpen state) (last, after))
    (hFinal : last.isFinal = true) (hSteps : used ≤ stepLimit) :
    (load services request forceOpen state).1.calls = after.calls ∧
      (load services request forceOpen state).2 = .ok (after.closing request last) := by
  obtain ⟨hCalls, hOutcome⟩ := finish_eq request after last
  simp only [load, loadWithin, hLeads.drive_eq hFinal hSteps, giveUp, hFinal, if_true]
  exact ⟨hCalls, congrArg _ hOutcome⟩

theorem Crashes.load_eq {services : Services σ} {used : Nat} {crash : Crash}
    (hCrashes : Crashes services request used (.start, .start request forceOpen state) crash)
    (hSteps : used ≤ stepLimit) :
    (load services request forceOpen state).2 = .error crash := by
  have hDrive := hCrashes.drive_eq hSteps
  rw [load, loadWithin]
  split
  · rename_i hError
    rw [hError] at hDrive
    exact congrArg Except.error (Except.error.inj hDrive)
  · rename_i hOk
    rw [hOk] at hDrive
    cases hDrive

/-- A run that has gone over to the address of the index file for a second document. -/
def Run.moved (run : Run σ) (services : σ) (calls : List String) (url : String) : Run σ :=
  { run with services, calls, url, isAlternate := true, isSecond := true }

/-- A run after a further fetch that brought nothing. -/
def Run.called (run : Run σ) (services : σ) (calls : List String) : Run σ :=
  { run with services, calls }

section Bare

variable {run other : Run σ}

/-- Bare runs agree in all that a load goes by. -/
theorem bare_fields (hBare : run.bare = other.bare) :
    run.services = other.services ∧ run.url = other.url ∧ run.calls = other.calls := by
  have hServices := congrArg Run.services hBare
  have hUrl := congrArg Run.url hBare
  have hCalls := congrArg Run.calls hBare
  exact ⟨hServices, hUrl, hCalls⟩

theorem bare_moved {services : σ} {calls : List String} {url : String}
    (hBare : run.bare = other.bare) :
    (run.moved services calls url).bare = (other.moved services calls url).bare := by
  have hMoved := congrArg (Run.moved · services calls url) hBare
  exact hMoved

theorem bare_called {services : σ} {calls : List String} (hBare : run.bare = other.bare) :
    (run.called services calls).bare = (other.called services calls).bare := by
  have hCalled := congrArg (Run.called · services calls) hBare
  exact hCalled

/-- What an attempt leaves depends on nothing that a bare run lacks. -/
theorem bare_mark (attempt : Attempt) (hBare : run.bare = other.bare) :
    (attempt.mark request run).bare = (attempt.mark request other).bare := by
  have hMark (run : Run σ) :
      (attempt.mark request run).bare = (attempt.mark request run.bare).bare := by
    cases attempt <;> rfl
  rw [hMark, hBare, ← hMark]

theorem bare_closing {last : State} (hBare : run.bare = other.bare) :
    run.closing request last = other.closing request last := by
  have hClosing (run : Run σ) : run.closing request last = run.bare.closing request last := rfl
  rw [hClosing, hBare, ← hClosing]

theorem bare_canRetry (hBare : run.bare = other.bare) :
    run.canRetry request = other.canRetry request := by
  have hRetry (run : Run σ) : run.canRetry request = run.bare.canRetry request := rfl
  rw [hRetry, hBare, ← hRetry]

theorem mark_fields (request : Request) (attempt : Attempt) (run : Run σ) :
    (attempt.mark request run).services = run.services ∧
      (attempt.mark request run).url = run.url ∧
      (attempt.mark request run).calls = run.calls := by
  cases attempt <;> exact ⟨rfl, rfl, rfl⟩

theorem mark_canRetry (attempt : Attempt) (run : Run σ) :
    (attempt.mark request run).canRetry request = run.canRetry request := by
  cases attempt <;> rfl

end Bare

/-- The beginning of a load, when some addresses have been fetched. -/
def Run.begun (request : Request) (forceOpen : Bool) (services : σ) (calls : List String) : Run σ :=
  { Run.start request forceOpen services with calls }

section Outcomes

variable {calls laterCalls : List String} {later : σ}

theorem outcome_single {attempt : Attempt} (hFetched : attempt.isFetched = true) :
    (attempt.mark request (.begun request forceOpen state calls)).closing request attempt.final =
      Trial.outcome ⟨attempt, none⟩ request forceOpen := by
  cases attempt with
  | unfetched failure => cases hFetched
  | usable version isSalvaged packages => cases isSalvaged <;> rfl
  | unrecognized | invalid | unchecked | tooNew | unreadable => rfl

theorem outcome_double {first second : Attempt} (hFirst : first.isFetched = true)
    (hLeadsOn : first.leadsOn = true) (hTold : ∀ hint url, (first.complaint hint url).1.isSome = true)
    (hSecond : second.isFetched = true) :
    (second.mark request ((first.mark request (.begun request forceOpen state calls)).moved later
      laterCalls (request.fallback forceOpen))).closing
        request second.final =
      Trial.outcome ⟨first, some second⟩ request forceOpen := by
  cases first with
  | unfetched failure => cases hFirst
  | unchecked | tooNew | unreadable | usable => cases hLeadsOn
  | unrecognized =>
      cases second with
      | unfetched failure => cases hSecond
      | usable version isSalvaged packages => cases isSalvaged <;> rfl
      | unrecognized | invalid | unchecked | tooNew | unreadable => rfl
  | invalid version error =>
      obtain ⟨told, rfl⟩ := Option.isSome_iff_exists.mp (hTold request.hint "")
      cases second with
      | unfetched failure => cases hSecond
      | usable version isSalvaged packages => cases isSalvaged <;> rfl
      | unrecognized | invalid | unchecked | tooNew | unreadable => rfl

/-- The second document cannot be fetched, and what is told of the first stays. -/
theorem outcome_lost {first : Attempt} {failure : Fetch.Failure} (hFirst : first.isFetched = true)
    (hLeadsOn : first.leadsOn = true) :
    ((first.mark request (.begun request forceOpen state calls)).called later laterCalls).closing
        request .failed =
      Trial.outcome ⟨first, some (.unfetched failure)⟩ request forceOpen := by
  cases first with
  | unfetched failure => cases hFirst
  | unchecked | tooNew | unreadable | usable => cases hLeadsOn
  | unrecognized | invalid => rfl

/-- The second document is the first that is fetched. -/
theorem outcome_found {failure : Fetch.Failure} {second : Attempt}
    (hSecond : second.isFetched = true) :
    (second.mark request
      { Run.begun request forceOpen state calls with
        url := request.fallback forceOpen
        isAlternate := true }).closing request second.final =
      Trial.outcome ⟨.unfetched failure, some second⟩ request forceOpen := by
  cases second with
  | unfetched failure => cases hSecond
  | usable version isSalvaged packages => cases isSalvaged <;> rfl
  | unrecognized | invalid | unchecked | tooNew | unreadable => rfl

theorem outcome_unfetched (services : σ) (calls : List String) (failure : Fetch.Failure) :
    { Run.begun request forceOpen services calls with
      failure := some failure }.closing request .failed =
      Trial.outcome ⟨.unfetched failure, none⟩ request forceOpen := by
  have hText := @String.append_empty (failureTexts failure).1
  simp only [Run.closing, Run.begun, Run.start, nonempty, Option.filter_none, Option.map_none,
    Option.getD_none, hText]
  rfl

theorem outcome_unfetched_both (services : σ) (calls : List String)
    (failure second : Fetch.Failure) :
    { Run.begun request forceOpen services calls with
      url := request.fallback forceOpen
      isAlternate := true
      failure := some second }.closing request .failed =
      Trial.outcome ⟨.unfetched failure, some (.unfetched second)⟩ request forceOpen := by
  have hText := @String.append_empty (failureTexts second).1
  simp only [Run.closing, Run.begun, Run.start, nonempty, Option.filter_none, Option.map_none,
    Option.getD_none, hText]
  rfl

end Outcomes

end SdkFeed.Load
