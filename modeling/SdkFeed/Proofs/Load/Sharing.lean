import SdkFeed.Catalog.Pool

/-! Loads that share their services. If what is fetched, and what the check says, do not depend on the
state of the services, then a load does not notice when this state changes between its steps. What may
change are the state itself and the warnings that come with a check. -/
namespace SdkFeed.Load

variable {σ α : Type}

/-- The answers of services do not depend on their state. -/
structure Services.IsPure (services : Services σ) : Prop where
  fetch : ∀ state other url, (services.fetch state url).1 = (services.fetch other url).1
  validate : ∀ state other edition url bytes,
    (services.validate state edition url bytes).1.1 = (services.validate other edition url bytes).1.1

theorem Services.shared_isPure (fetch : String → Except Fetch.Cause (List UInt8))
    (validator : Schema.Validator) : (shared fetch validator).IsPure :=
  ⟨fun _ _ _ => rfl, fun _ _ _ _ _ => rfl⟩

namespace Run

/-- A run without the state of the services and without warnings. -/
def quiet (run : Run σ) : Run Unit :=
  { run with services := (), warnings := [] }

/-- The same run with another state of the services and other warnings. -/
def beside (run : Run σ) (services : σ) (warnings : List String) : Run σ :=
  { run with services, warnings }

variable {run other : Run σ}

theorem exists_beside (hQuiet : other.quiet = run.quiet) :
    ∃ services warnings, other = run.beside services warnings := by
  refine ⟨other.services, other.warnings, ?_⟩
  cases run
  cases other
  simp only [quiet, mk.injEq, true_and] at hQuiet
  simp only [beside, hQuiet]

theorem quiet_softFail (hQuiet : other.quiet = run.quiet) (kind : ErrorKind) (message : String) :
    (other.softFail kind message).quiet = (run.softFail kind message).quiet := by
  obtain ⟨state, warnings, rfl⟩ := exists_beside hQuiet
  rw [softFail, softFail, apply_ite quiet, apply_ite quiet]
  rfl

theorem quiet_reportAlternate (hQuiet : other.quiet = run.quiet) :
    other.reportAlternate.quiet = run.reportAlternate.quiet := by
  obtain ⟨state, warnings, rfl⟩ := exists_beside hQuiet
  rw [reportAlternate, reportAlternate, apply_ite quiet, apply_ite quiet]
  rfl

theorem fetch_beside {services : Services σ} (hPure : services.IsPure)
    (hQuiet : other.quiet = run.quiet) (url : String) :
    ∃ state warnings, other.fetch services url =
      ((run.fetch services url).1, (run.fetch services url).2.beside state warnings) := by
  obtain ⟨state, warnings, rfl⟩ := exists_beside hQuiet
  exact ⟨(services.fetch state url).2, warnings, Prod.ext (hPure.fetch ..) rfl⟩

end Run

/-- A run and what comes with it, without the state of the services and without warnings. -/
def quietly (pair : Run σ × α) : Run Unit × α :=
  (pair.1.quiet, pair.2)

theorem quietly_eq {first second : Run σ × α} (hRun : first.1.quiet = second.1.quiet)
    (hRest : first.2 = second.2) : quietly first = quietly second :=
  Prod.ext hRun hRest

theorem exists_of_quietly {first second : Run σ × α} (hQuiet : quietly first = quietly second) :
    ∃ services warnings, first = (second.1.beside services warnings, second.2) := by
  obtain ⟨hRun, hRest⟩ := Prod.mk.inj hQuiet
  obtain ⟨services, warnings, hBeside⟩ := Run.exists_beside hRun
  exact ⟨services, warnings, Prod.ext hBeside hRest⟩

theorem quietly_ite {condition : Prop} [Decidable condition] {first second third last : Run σ × α}
    (hThen : quietly first = quietly third) (hElse : quietly second = quietly last) :
    quietly (if condition then first else second) =
      quietly (if condition then third else last) := by
  split
  · exact hThen
  · exact hElse

section Steps

variable {services : Services σ} {request : Request} {run other : Run σ}
  (hQuiet : other.quiet = run.quiet)

include hQuiet

theorem quietly_onDetecting :
    quietly (onDetecting request other) = quietly (onDetecting request run) := by
  obtain ⟨state, warnings, rfl⟩ := Run.exists_beside hQuiet
  simp only [onDetecting, Run.beside]
  split
  · rfl
  · rfl
  · exact quietly_ite rfl (quietly_ite rfl rfl)

theorem quietly_onValid : quietly (onValid other) = quietly (onValid run) := by
  obtain ⟨state, warnings, rfl⟩ := Run.exists_beside hQuiet
  simp only [onValid, Run.beside]
  split
  · rfl
  · exact quietly_eq (Run.quiet_softFail (by rfl) _ _) rfl
  · exact quietly_eq (Run.quiet_reportAlternate (by rfl)) rfl

theorem quietly_onProbing : quietly (onProbing request other) = quietly (onProbing request run) := by
  obtain ⟨state, warnings, rfl⟩ := Run.exists_beside hQuiet
  simp only [onProbing, Run.beside]
  split <;> rfl

theorem quietly_onParsing : quietly (onParsing request other) = quietly (onParsing request run) := by
  obtain ⟨state, warnings, rfl⟩ := Run.exists_beside hQuiet
  unfold onParsing
  extract_lets otherTold message info told
  have hTold : otherTold.quiet = told.quiet := rfl
  clear_value otherTold told
  obtain ⟨state, warnings, rfl⟩ := Run.exists_beside hTold
  rw [show (told.beside state warnings).document = told.document from rfl]
  split
  · rfl
  -- The index is the same; the runs are compared as they are after reading, and as they are marked.
  · extract_lets otherIndex otherRead otherMarked index read marked
    have hIndex : otherIndex = index := rfl
    have hRead : otherRead.quiet = read.quiet := rfl
    have hMarked : otherMarked.quiet = marked.quiet := by
      simp only [otherMarked, marked, apply_ite Run.quiet]
      rfl
    clear_value otherMarked marked otherRead read otherIndex index
    subst hIndex
    split
    · obtain ⟨state, warnings, rfl⟩ := Run.exists_beside hRead
      exact quietly_eq (Run.quiet_softFail (by rfl) _ _) rfl
    · obtain ⟨state, warnings, rfl⟩ := Run.exists_beside hMarked
      rfl

section Pure

variable (hPure : services.IsPure)

include hPure

theorem quietly_onFetching :
    quietly (onFetching services request other) = quietly (onFetching services request run) := by
  have hUrl : other.url = run.url := (congrArg Run.url hQuiet :)
  obtain ⟨state, warnings, hFetch⟩ := Run.fetch_beside hPure hQuiet run.url
  rw [onFetching, onFetching, hUrl, hFetch]
  rcases run.fetch services run.url with ⟨answer, after⟩
  cases answer with
  | ok bytes => rfl
  | error cause => exact quietly_ite rfl rfl

theorem quietly_retry :
    quietly (other.retry services request) = quietly (run.retry services request) := by
  have hUrl : other.url = run.url := (congrArg Run.url hQuiet :)
  obtain ⟨state, warnings, hFetch⟩ :=
    Run.fetch_beside hPure hQuiet (alternateUrl run.url request.indexFile)
  rw [Run.retry, Run.retry, hUrl, hFetch]
  rcases run.fetch services (alternateUrl run.url request.indexFile) with ⟨answer, after⟩
  cases answer <;> rfl

/-- An error is marked, and then another address tried if one is left. -/
theorem quietly_retryAfter :
    quietly (if other.canRetry request then other.retry services request else (other, .ok .failed)) =
      quietly (if run.canRetry request then run.retry services request else (run, .ok .failed)) := by
  have hCan : other.canRetry request = run.canRetry request :=
    (congrArg (Run.canRetry · request) hQuiet :)
  rw [hCan]
  exact quietly_ite (quietly_retry hQuiet hPure) (quietly_eq hQuiet rfl)

theorem quietly_onNoVersion :
    quietly (onNoVersion services request other) = quietly (onNoVersion services request run) := by
  have hUrl : other.url = run.url := (congrArg Run.url hQuiet :)
  rw [onNoVersion, onNoVersion, hUrl]
  exact quietly_retryAfter (Run.quiet_softFail hQuiet _ _) hPure

theorem quietly_onInvalid :
    quietly (onInvalid services request other) = quietly (onInvalid services request run) := by
  obtain ⟨state, warnings, rfl⟩ := Run.exists_beside hQuiet
  rw [onInvalid, onInvalid]
  refine quietly_retryAfter ?_ hPure
  rfl

theorem quietly_onValidating :
    quietly (onValidating services request other) = quietly (onValidating services request run) := by
  obtain ⟨state, warnings, rfl⟩ := Run.exists_beside hQuiet
  have hAnswer := hPure.validate state run.services ⟨request.source.kind, run.version⟩ run.url
    run.bytes
  rcases hFirst : services.validate state ⟨request.source.kind, run.version⟩ run.url run.bytes with
    ⟨⟨answer, told⟩, after⟩
  rcases hSecond : services.validate run.services ⟨request.source.kind, run.version⟩ run.url
    run.bytes with ⟨⟨known, otherTold⟩, later⟩
  obtain rfl : answer = known := by
    rw [hFirst, hSecond] at hAnswer
    exact hAnswer
  simp only [onValidating, Run.beside, hFirst, hSecond]
  cases answer with
  | error breakdown => rfl
  | ok validation => exact quietly_ite rfl rfl

/-- A step is the same, up to warnings, for runs that are. -/
theorem quietly_step (last : State) :
    quietly (step services request other last) = quietly (step services request run last) := by
  cases last with
  | fetching => exact quietly_onFetching hQuiet hPure
  | detectingVersion => exact quietly_onDetecting hQuiet
  | noVersion => exact quietly_onNoVersion hQuiet hPure
  | validating => exact quietly_onValidating hQuiet hPure
  | validationFailed => exact quietly_onInvalid hQuiet hPure
  | validated => exact quietly_onValid hQuiet
  | probing => exact quietly_onProbing hQuiet
  | probed => exact quietly_eq (Run.quiet_reportAlternate hQuiet) rfl
  | parsing => exact quietly_onParsing hQuiet
  | fetched =>
      obtain ⟨state, warnings, rfl⟩ := Run.exists_beside hQuiet
      refine quietly_eq ?_ rfl
      simp only [step, apply_ite Run.quiet]
      rfl
  | start | fetchFailed | versionSupported | versionTooNew | validatorMissing | probeFailed | parsed
  | failed =>
      obtain ⟨state, warnings, rfl⟩ := Run.exists_beside hQuiet
      rfl

end Pure

end Steps

variable {services : Services σ} {run other : Run σ}

/-- And so is all that comes after. -/
theorem quietly_drive (request : Request) (hPure : services.IsPure)
    (hQuiet : other.quiet = run.quiet) (steps : Nat) (last : State) :
    quietly (drive services request steps last other) =
      quietly (drive services request steps last run) := by
  induction steps generalizing last run other with
  | zero => exact quietly_eq hQuiet rfl
  | succ steps ih =>
      obtain ⟨state, warnings, hStep⟩ := exists_of_quietly (quietly_step hQuiet hPure last)
      rw [drive, drive, hStep]
      refine quietly_ite (quietly_eq hQuiet rfl) ?_
      rcases step services request run last with ⟨after, result⟩
      cases result with
      | error crash => rfl
      | ok next => exact ih (by rfl) next

theorem quietly_giveUp (request : Request) (hQuiet : other.quiet = run.quiet) (last : State) :
    quietly (giveUp request other last) = quietly (giveUp request run last) := by
  obtain ⟨state, warnings, rfl⟩ := Run.exists_beside hQuiet
  exact quietly_ite rfl (quietly_eq (Run.quiet_softFail (by rfl) _ _) rfl)

theorem quietly_finish (request : Request) (hQuiet : other.quiet = run.quiet) (last : State) :
    quietly (finish request other last) = quietly (finish request run last) := by
  obtain ⟨state, warnings, rfl⟩ := Run.exists_beside hQuiet
  have hSettled : settleFailure (run.beside state warnings) =
      (settleFailure run).beside state warnings := by
    simp only [settleFailure, Run.beside]
    split <;> rfl
  rw [finish, finish, hSettled]
  generalize settleFailure run = settled
  have hError : (settled.beside state warnings).validationError = settled.validationError := rfl
  rw [hError]
  cases nonempty settled.validationError <;> rfl

/-- The outcome is the same too. -/
theorem quietly_settle (request : Request) (hQuiet : other.quiet = run.quiet)
    (ending : Except Crash State) :
    quietly (settle request other ending) = quietly (settle request run ending) := by
  cases ending with
  | error crash => exact quietly_eq hQuiet rfl
  | ok last =>
      obtain ⟨state, warnings, hGiven⟩ := exists_of_quietly (quietly_giveUp request hQuiet last)
      rw [settle, settle, hGiven]
      rcases giveUp request run last with ⟨given, final⟩
      have hFinish : quietly (finish request (given.beside state warnings) final) =
          quietly (finish request given final) := quietly_finish request (by rfl) final
      exact quietly_eq (congrArg (·.1) hFinish) (congrArg (Except.ok ·.2) hFinish)

/-- What a load comes to that goes on from a state. -/
def complete (services : Services σ) (request : Request) (steps : Nat) (state : State) (run : Run σ) :
    Run σ × Except Crash Outcome :=
  let (run, ending) := drive services request steps state run
  settle request run ending

theorem load_eq_complete (services : Services σ) (request : Request) (forceOpen : Bool) (state : σ) :
    load services request forceOpen state =
      complete services request stepLimit .start (.start request forceOpen state) := by
  rw [load, loadWithin, complete]
  rcases drive services request stepLimit .start (.start request forceOpen state) with ⟨run, ending⟩
  cases ending <;> rfl

theorem quietly_complete (request : Request) (hPure : services.IsPure)
    (hQuiet : other.quiet = run.quiet) (steps : Nat) (state : State) :
    quietly (complete services request steps state other) =
      quietly (complete services request steps state run) := by
  obtain ⟨after, warnings, hDrive⟩ := exists_of_quietly
    (quietly_drive request hPure hQuiet steps state)
  rw [complete, complete, hDrive]
  exact quietly_settle request (by rfl) _

end SdkFeed.Load
