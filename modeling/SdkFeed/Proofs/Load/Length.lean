import SdkFeed.Proofs.Load.Transition

/-! How long a load can be. A budget says how often states of some sort may still be entered; it
depends on the state and on whether the load may still go over to another address. A budget that pays
for every transition pays for every run, so a load comes to an end long before it would be given
up. -/
namespace SdkFeed.Load

variable {σ : Type} {services : Services σ} {request : Request} {forceOpen : Bool}
  {before after run : Run σ} {state next last : State}

/-- A transition leads to a follower and leaves the load as movable as it was, or it is a restart and
takes away what made the load movable. -/
theorem Transition.isMovable (hTransition : Transition request before after state next) :
    (next ∈ state.followers ∧ after.isMovable request = before.isMovable request) ∨
      (next ∈ state.restarts ∧ before.isMovable request = true ∧
        after.isMovable request = false) := by
  cases hTransition with
  | stay hNext _ hStays | fetch hNext hStays => exact .inl ⟨hNext, hStays.isMovable⟩
  | again hOver =>
      exact .inr ⟨by decide, hOver.isMovable, Run.isMovable_of_isAlternate hOver.isAlternate⟩
  | retry hState hOver =>
      exact .inr ⟨hState, hOver.isMovable, Run.isMovable_of_isAlternate hOver.isAlternate⟩
  | lose hState _ hStays => exact .inl ⟨State.failed_mem_followers hState, hStays.isMovable⟩

section Trace

theorem Run.softFail_trace (run : Run σ) (kind : ErrorKind) (message : String) :
    (run.softFail kind message).trace = run.trace := by
  rw [softFail]
  split <;> rfl

theorem Run.reportAlternate_trace (run : Run σ) : run.reportAlternate.trace = run.trace := by
  rw [reportAlternate]
  split <;> rfl

theorem Run.retry_trace (run : Run σ) (services : Services σ) (request : Request) :
    (run.retry services request).1.trace = run.trace := by
  simp only [retry, fetch]
  split
  · rename_i cause lost hFetch
    have hTrace := congrArg Run.trace (Prod.mk.inj hFetch).2.symm
    exact hTrace
  · rename_i bytes fetched hFetch
    have hTrace := congrArg Run.trace (Prod.mk.inj hFetch).2.symm
    exact hTrace

/-- Handlers leave the entering of states to the driver. -/
theorem step_trace (services : Services σ) (request : Request) (run : Run σ) (state : State) :
    (step services request run state).1.trace = run.trace := by
  cases state with
  | fetching =>
      simp only [step, onFetching, Run.fetch]
      split
      · rename_i bytes fetched hFetch
        have hTrace := congrArg Run.trace (Prod.mk.inj hFetch).2.symm
        exact hTrace
      · rename_i cause lost hFetch
        have hTrace := congrArg Run.trace (Prod.mk.inj hFetch).2.symm
        split <;> exact hTrace
  | fetched =>
      rw [step]
      split <;> rfl
  | detectingVersion =>
      rw [step, onDetecting]
      split
      · rfl
      · rfl
      · split
        · rfl
        · split <;> rfl
  | noVersion =>
      rw [step, onNoVersion]
      split
      · exact (Run.retry_trace _ _ _).trans (Run.softFail_trace _ _ _)
      · exact Run.softFail_trace _ _ _
  | validating =>
      rw [step, onValidating]
      dsimp only
      split
      · rfl
      · split <;> rfl
  | validationFailed =>
      rw [step, onInvalid]
      split
      · exact Run.retry_trace _ _ _
      · rfl
  | validated =>
      rw [step, onValid]
      split
      · rfl
      · exact Run.softFail_trace _ _ _
      · exact Run.reportAlternate_trace _
  | probing =>
      rw [step, onProbing]
      split <;> rfl
  | probed => exact Run.reportAlternate_trace run
  | parsing =>
      change (onParsing request run).1.trace = run.trace
      unfold onParsing
      extract_lets told
      have hTold : told.trace = run.trace := rfl
      clear_value told
      split
      · exact hTold
      · extract_lets index read
        have hRead : read.trace = run.trace := hTold
        clear_value read
        split
        · exact (Run.softFail_trace _ _ _).trans hRead
        · rename_i described _ packages hPackages
          have hDescribed : described.trace = run.trace := by
            simp only [described]
            split <;> exact hRead
          exact hDescribed
  | start | fetchFailed | versionSupported | versionTooNew | validatorMissing | probeFailed
  | parsed | failed => rfl

end Trace

/-- A budget pays for every transition to a state that counts. -/
structure IsBudget (counts : State → Bool) (budget : Bool → State → Nat) : Prop where
  follow : ∀ isMovable state, ∀ next ∈ state.followers,
    budget isMovable next + (if counts next then 1 else 0) ≤ budget isMovable state
  restart : ∀ state, ∀ next ∈ state.restarts,
    budget false next + (if counts next then 1 else 0) ≤ budget true state

/-- Every transition leaves at least as much of the budget as it does not use. -/
theorem IsBudget.transition {counts : State → Bool} {budget : Bool → State → Nat}
    (hBudget : IsBudget counts budget)
    (hTransition : Transition request before after state next) :
    budget (after.isMovable request) next + (if counts next then 1 else 0) ≤
      budget (before.isMovable request) state := by
  rcases hTransition.isMovable with ⟨hNext, hSame⟩ | ⟨hNext, hBefore, hAfter⟩
  · rw [hSame]
    exact hBudget.follow _ _ _ hNext
  · rw [hBefore, hAfter]
    exact hBudget.restart _ _ hNext

/-- A run enters no more states that count than its budget pays for. -/
theorem IsBudget.drive {counts : State → Bool} {budget : Bool → State → Nat}
    (hBudget : IsBudget counts budget) (services : Services σ) (request : Request) (steps : Nat)
    (state : State) (run : Run σ) :
    ∃ entered, (drive services request steps state run).1.trace = run.trace ++ entered ∧
      entered.countP counts ≤ budget (run.isMovable request) state := by
  induction steps generalizing state run with
  | zero => exact ⟨[], (List.append_nil _).symm, Nat.zero_le _⟩
  | succ steps ih =>
      rw [Load.drive]
      split
      · exact ⟨[], (List.append_nil _).symm, Nat.zero_le _⟩
      · rename_i hOpen
        have hTrace := step_trace services request run state
        split
        · rename_i after crash hStep
          rw [hStep] at hTrace
          exact ⟨[], by rw [List.append_nil]; exact hTrace, Nat.zero_le _⟩
        · rename_i after next hStep
          rw [hStep] at hTrace
          have hPaid := hBudget.transition (step_transition (by simpa using hOpen) hStep)
          obtain ⟨entered, hEntered, hCount⟩ := ih next (after.enter next)
          refine ⟨next :: entered, ?_, ?_⟩
          · refine hEntered.trans ?_
            rw [Run.enter, hTrace, List.append_assoc, List.singleton_append]
          · rw [List.countP_cons]
            exact (Nat.add_le_add_right hCount _).trans hPaid

/-- How many states a load can still enter. -/
def stepBudget (isMovable : Bool) : State → Nat
  | .start => if isMovable then 13 else 8
  | .fetching => if isMovable then 12 else 7
  | .fetched => if isMovable then 11 else 6
  | .detectingVersion => if isMovable then 10 else 5
  | .versionSupported => if isMovable then 9 else 4
  | .validating => if isMovable then 8 else 3
  | .noVersion | .validationFailed => if isMovable then 7 else 1
  | .versionTooNew => 4
  | .probing => 3
  | .validated | .probed => 2
  | .fetchFailed | .validatorMissing | .probeFailed | .parsing => 1
  | .parsed | .failed => 0

/-- How often a load can still tell the version of a document. -/
def detectionBudget (isMovable : Bool) : State → Nat
  | .start | .fetching | .fetched => if isMovable then 2 else 1
  | .detectingVersion | .versionSupported | .validating | .noVersion | .validationFailed =>
    if isMovable then 1 else 0
  | _ => 0

/-- How often a load can still check a document. -/
def checkBudget (isMovable : Bool) : State → Nat
  | .start | .fetching | .fetched | .detectingVersion | .versionSupported =>
    if isMovable then 2 else 1
  | .validating | .noVersion | .validationFailed => if isMovable then 1 else 0
  | _ => 0

/-- How often a load can still read packages. -/
def parseBudget : Bool → State → Nat
  | _, .parsing | _, .parsed | _, .failed => 0
  | _, _ => 1

theorem stepBudget_isBudget : IsBudget (fun _ => true) stepBudget := by
  constructor
  · intro isMovable state
    cases isMovable <;> cases state <;> decide
  · intro state
    cases state <;> decide

theorem detectionBudget_isBudget : IsBudget (· == .detectingVersion) detectionBudget := by
  constructor
  · intro isMovable state
    cases isMovable <;> cases state <;> decide
  · intro state
    cases state <;> decide

theorem checkBudget_isBudget : IsBudget (· == .validating) checkBudget := by
  constructor
  · intro isMovable state
    cases isMovable <;> cases state <;> decide
  · intro state
    cases state <;> decide

theorem parseBudget_isBudget : IsBudget (· == .parsing) parseBudget := by
  constructor
  · intro isMovable state
    cases isMovable <;> cases state <;> decide
  · intro state
    cases state <;> decide

/-- A load that can take as many steps as it can still enter states comes to its end. -/
theorem drive_isFinal {steps : Nat} (hSteps : stepBudget (run.isMovable request) state ≤ steps)
    (hDrive : (drive services request steps state run).2 = .ok last) : last.isFinal = true := by
  induction steps generalizing state run with
  | zero =>
      obtain rfl := Except.ok.inj hDrive
      -- Every state that is not final has something left of the budget.
      cases state with
      | parsed | failed => rfl
      | versionTooNew | probing | validated | probed | fetchFailed | validatorMissing
      | probeFailed | parsing => cases hSteps
      | start | fetching | fetched | detectingVersion | versionSupported | validating | noVersion
      | validationFailed =>
          simp only [stepBudget] at hSteps
          split at hSteps <;> cases hSteps
  | succ steps ih =>
      rw [drive] at hDrive
      split at hDrive
      · rename_i hFinal
        obtain rfl := Except.ok.inj hDrive
        exact hFinal
      · rename_i hOpen
        split at hDrive
        · cases hDrive
        · rename_i after next hStep
          have hPaid := stepBudget_isBudget.transition
            (step_transition (by simpa using hOpen) hStep)
          have hRest : stepBudget ((after.enter next).isMovable request) next ≤ steps := by
            simp only [if_true] at hPaid
            exact Nat.le_of_lt_succ (hPaid.trans hSteps)
          exact ih hRest hDrive

/-- Once a load has come to its end, more steps change nothing. -/
theorem drive_add {steps : Nat} (more : Nat)
    (hEnds : ∀ last, (drive services request steps state run).2 = .ok last → last.isFinal = true) :
    drive services request (steps + more) state run = drive services request steps state run := by
  induction steps generalizing state run with
  | zero => exact drive_final (hEnds state rfl) _ _
  | succ steps ih =>
      rw [Nat.add_right_comm, drive, drive]
      split
      · rfl
      · rename_i hOpen
        rw [drive, if_neg hOpen] at hEnds
        split
        · rfl
        · rename_i after next hStep
          rw [hStep] at hEnds
          exact ih hEnds

/-- Whether something has been fetched, or tried to be, when a load enters a state at its address. -/
def State.hasFetched : State → Bool
  | start | fetching => false
  | _ => true

/-- What a load has fetched so far. -/
inductive HasCalled (request : Request) (forceOpen : Bool) (state : State) (run : Run σ) : Prop where
  | none (hState : state.hasFetched = false) (hAlternate : run.isAlternate = false)
      (hUrl : run.url = request.address forceOpen) (hCalls : run.calls = [])
  | first (hState : state.hasFetched = true) (hUrl : run.url = request.address forceOpen)
      (hCalls : run.calls = [request.address forceOpen])
  | again (hState : state = .fetching) (hAlternate : run.isAlternate = true)
      (hUrl : run.url = request.fallback forceOpen)
      (hCalls : run.calls = [request.address forceOpen])
  | second (hState : state.hasFetched = true)
      (hDone : run.isMovable request = false ∨ state = .failed)
      (hCalls : run.calls = [request.address forceOpen, request.fallback forceOpen])

theorem State.hasFetched_of_restarts (hRestart : .fetched ∈ state.restarts) :
    state.hasFetched = true := by
  have hFailed := failed_mem_followers hRestart
  cases state with
  | start | fetching => revert hFailed; decide
  | _ => rfl

theorem State.hasFetched_of_followers (hState : state.hasFetched = true)
    (hNext : next ∈ state.followers) : next.hasFetched = true := by
  cases next with
  | start => cases state <;> revert hNext <;> decide
  | fetching => cases state <;> revert hState hNext <;> decide
  | _ => rfl

theorem State.hasFetched_of_fetching (hNext : next ∈ State.fetching.followers) :
    next.hasFetched = true := by
  simp only [followers, List.mem_cons, List.not_mem_nil, or_false] at hNext
  rcases hNext with rfl | rfl <;> rfl

/-- A load that goes over does so from the address of the source, after one fetch at most. -/
theorem HasCalled.transition (hCalled : HasCalled request forceOpen state before)
    (hOpen : state.isFinal = false) (hTransition : Transition request before after state next) :
    HasCalled request forceOpen next after := by
  -- Each case is what has been fetched before; most transitions cannot be taken then.
  cases hCalled with
  | none hState hAlternate hUrl hCalls =>
      cases hTransition with
      | stay hNext hFetching hStays hSame =>
          have hStart : state = .start := by
            cases state with
            | start => rfl
            | fetching => exact absurd rfl hFetching
            | _ => cases hState
          subst hStart
          obtain rfl : next = .fetching := by simpa [State.followers] using hNext
          exact .none rfl (hStays.1.trans hAlternate) (hStays.2.trans hUrl) (hSame.trans hCalls)
      | fetch hNext hStays hMore =>
          exact .first (State.hasFetched_of_fetching hNext) (hStays.2.trans hUrl)
            (by rw [hMore, hCalls, hUrl]; rfl)
      | again hOver hMore =>
          exact .again rfl hOver.isAlternate (by rw [hOver.url, hUrl]; rfl)
            (by rw [hMore, hCalls, hUrl]; rfl)
      | retry hRestart | lose hRestart =>
          rw [State.hasFetched_of_restarts hRestart] at hState
          cases hState
  | first hState hUrl hCalls =>
      cases hTransition with
      | stay hNext hFetching hStays hSame =>
          exact .first (State.hasFetched_of_followers hState hNext) (hStays.2.trans hUrl)
            (hSame.trans hCalls)
      | fetch | again => cases hState
      | retry hRestart hOver hMore =>
          exact .second rfl (.inl (Run.isMovable_of_isAlternate hOver.isAlternate))
            (by rw [hMore, hCalls, hOver.url, hUrl]; rfl)
      | lose hRestart hMovable hStays hMore =>
          exact .second rfl (.inr rfl) (by rw [hMore, hCalls, hUrl]; rfl)
  | again hState hAlternate hUrl hCalls =>
      subst hState
      have hSettled : before.isMovable request = false :=
        Run.isMovable_of_isAlternate hAlternate
      cases hTransition with
      | stay hNext hFetching => exact absurd rfl hFetching
      | fetch hNext hStays hMore =>
          exact .second (State.hasFetched_of_fetching hNext)
            (.inl (hStays.isMovable.trans hSettled)) (by rw [hMore, hCalls, hUrl]; rfl)
      | again hOver | retry _ hOver => rw [hOver.isMovable] at hSettled; cases hSettled
      | lose _ hMovable => rw [hMovable] at hSettled; cases hSettled
  | second hState hDone hCalls =>
      have hSettled : before.isMovable request = false := by
        rcases hDone with hDone | rfl
        · exact hDone
        · cases hOpen
      cases hTransition with
      | stay hNext hFetching hStays hSame =>
          exact .second (State.hasFetched_of_followers hState hNext)
            (.inl (hStays.isMovable.trans hSettled)) (hSame.trans hCalls)
      | fetch | again => cases hState
      | retry _ hOver => rw [hOver.isMovable] at hSettled; cases hSettled
      | lose _ hMovable => rw [hMovable] at hSettled; cases hSettled

theorem HasCalled.enter (hCalled : HasCalled request forceOpen next after) :
    HasCalled request forceOpen next (after.enter next) := by
  cases hCalled with
  | none hState hAlternate hUrl hCalls => exact .none hState hAlternate hUrl hCalls
  | first hState hUrl hCalls => exact .first hState hUrl hCalls
  | again hState hAlternate hUrl hCalls => exact .again hState hAlternate hUrl hCalls
  | second hState hDone hCalls => exact .second hState hDone hCalls

/-- What every transition keeps, a load keeps to its end. -/
theorem drive_keeps (keeps : State → Run σ → Prop) {steps : Nat}
    (hKeeps : ∀ (state next : State) (before after : Run σ), state.isFinal = false →
      Transition request before after state next → keeps state before →
      keeps next (after.enter next))
    (hBefore : keeps state before)
    (hDrive : drive services request steps state before = (after, .ok last)) : keeps last after :=
  drive_invariant keeps (fun _ _ _ _ hOpen hStep => hKeeps _ _ _ _ hOpen (step_transition hOpen hStep))
    hBefore hDrive

/-- A load that has ended has fetched one document, or two. -/
theorem HasCalled.calls (hCalled : HasCalled request forceOpen last run)
    (hFinal : last.isFinal = true) :
    run.calls = [request.address forceOpen] ∨
      run.calls = [request.address forceOpen, request.fallback forceOpen] := by
  cases hCalled with
  | none hState =>
      cases last with
      | start | fetching => cases hFinal
      | _ => cases hState
  | first _ _ hCalls => exact .inl hCalls
  | again hState =>
      subst hState
      cases hFinal
  | second _ _ hCalls => exact .inr hCalls

theorem giveUp_final (request : Request) (run : Run σ) (hFinal : last.isFinal = true) :
    giveUp request run last = (run, last) := by
  rw [giveUp, hFinal]
  rfl

theorem finish_trace (request : Request) (run : Run σ) (last : State) :
    (finish request run last).1.trace = run.trace := by
  obtain ⟨reports, hSettled⟩ := settleFailure_eq request run
  simp only [finish, hSettled]
  split <;> rfl

theorem stepBudget_start (request : Request) (forceOpen : Bool) (state : σ) :
    stepBudget ((Run.start request forceOpen state).isMovable request) .start ≤ 13 := by
  rw [stepBudget]
  split <;> decide

/-- A load is its run up to the end, and the outcome that the end gives. -/
theorem load_of_drive {state : σ} {ending : Except Crash State}
    (hDrive : drive services request stepLimit .start (.start request forceOpen state) =
      (run, ending)) :
    (load services request forceOpen state).1.trace = run.trace ∧
    (load services request forceOpen state).1.calls = run.calls ∧
    ∀ outcome, (load services request forceOpen state).2 = .ok outcome →
      ending = .ok outcome.state ∧ outcome.state.isFinal = true := by
  cases ending with
  | error crash =>
      simp only [load, loadWithin, hDrive, true_and]
      intro outcome hOutcome
      cases hOutcome
  | ok last =>
      have hFinal : last.isFinal = true :=
        drive_isFinal ((stepBudget_start request forceOpen state).trans (by decide))
          (congrArg Prod.snd hDrive)
      simp only [load, loadWithin, hDrive, giveUp_final request run hFinal]
      refine ⟨finish_trace request run last, (finish_eq request run last).1, ?_⟩
      intro outcome hOutcome
      have hState : outcome.state = last := by
        rw [← Except.ok.inj hOutcome, (finish_eq request run last).2, Run.closing]
      exact ⟨by rw [hState], by rw [hState]; exact hFinal⟩

/-- Every load ends after thirteen steps at the latest. It fetches one document, or a second one at
the address of the index file below the first one's; it tells the version of each and checks each once
at most, and it reads packages once at most. So it is never given up, and with any greater limit on
its steps it would be the same. -/
theorem load_is_short (services : Services σ) (request : Request) (forceOpen : Bool) (state : σ) :
    (load services request forceOpen state).1.trace.length ≤ 13 ∧
    (load services request forceOpen state).1.trace.count .detectingVersion ≤ 2 ∧
    (load services request forceOpen state).1.trace.count .validating ≤ 2 ∧
    (load services request forceOpen state).1.trace.count .parsing ≤ 1 ∧
    (∀ outcome, (load services request forceOpen state).2 = .ok outcome →
      ((load services request forceOpen state).1.calls = [request.address forceOpen] ∨
        (load services request forceOpen state).1.calls =
          [request.address forceOpen, alternateUrl (request.address forceOpen) request.indexFile]) ∧
      outcome.state.isFinal = true ∧
      (load services request forceOpen state).1.trace.getLast? = some outcome.state) ∧
    (∀ run last, drive services request stepLimit .start (.start request forceOpen state) =
      (run, .ok last) → last.isFinal = true ∧ giveUp request run last = (run, last)) ∧
    ∀ steps, 13 ≤ steps → loadWithin steps services request forceOpen state =
      load services request forceOpen state := by
  have hStart := stepBudget_start request forceOpen state
  rcases hDrive : drive services request stepLimit .start (.start request forceOpen state) with
    ⟨run, ending⟩
  obtain ⟨hTrace, hCalls, hEnding⟩ := load_of_drive hDrive
  -- Each of the four counts is what a budget leaves of what it has at the start.
  have hCount {counts : State → Bool} {budget : Bool → State → Nat} (hBudget : IsBudget counts budget) :
      run.trace.countP counts ≤
        budget ((Run.start request forceOpen state).isMovable request) .start := by
    obtain ⟨entered, hEntered, hPaid⟩ :=
      hBudget.drive services request stepLimit .start (.start request forceOpen state)
    rw [hDrive] at hEntered
    rw [show run.trace = entered from hEntered]
    exact hPaid
  have hSteps := hCount stepBudget_isBudget
  have hDetections := hCount detectionBudget_isBudget
  have hChecks := hCount checkBudget_isBudget
  have hParses := hCount parseBudget_isBudget
  rw [hTrace, hCalls]
  refine ⟨?_, ?_, ?_, ?_, ?_, ?_, ?_⟩
  · rw [List.countP_true] at hSteps
    exact hSteps.trans (hStart.trans (by decide))
  · exact hDetections.trans (by cases Run.isMovable request _ <;> decide)
  · exact hChecks.trans (by cases Run.isMovable request _ <;> decide)
  · exact hParses
  · intro outcome hOutcome
    obtain ⟨rfl, hFinal⟩ := hEnding outcome hOutcome
    have hCalled : HasCalled request forceOpen outcome.state run :=
      drive_keeps (HasCalled request forceOpen) (fun _ _ _ _ hOpen hTransition hBefore =>
        (hBefore.transition hOpen hTransition).enter) (.none rfl rfl rfl rfl) hDrive
    have hEntered : outcome.state = .start ∨ run.trace.getLast? = some outcome.state :=
      drive_keeps (fun state run => state = .start ∨ run.trace.getLast? = some state)
        (fun _ _ _ _ _ _ _ => .inr List.getLast?_concat) (.inl rfl) hDrive
    refine ⟨hCalled.calls hFinal, hFinal, hEntered.resolve_left ?_⟩
    intro hStart
    rw [hStart] at hFinal
    cases hFinal
  · rintro other last hOther
    obtain ⟨rfl, rfl⟩ := Prod.mk.inj hOther
    have hFinal : last.isFinal = true :=
      drive_isFinal (hStart.trans (by decide)) (congrArg Prod.snd hDrive)
    exact ⟨hFinal, giveUp_final request run hFinal⟩
  · intro steps hSteps
    have hEnds (last : State) (hLast : (drive services request 13 .start
        (.start request forceOpen state)).2 = .ok last) : last.isFinal = true :=
      drive_isFinal hStart hLast
    obtain ⟨more, rfl⟩ := Nat.exists_eq_add_of_le hSteps
    have hSame := drive_add more hEnds
    have hLimit := drive_add 19 hEnds
    rw [load, loadWithin, loadWithin, hSame, stepLimit, hLimit]

end SdkFeed.Load
