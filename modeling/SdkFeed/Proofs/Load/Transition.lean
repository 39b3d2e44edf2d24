import SdkFeed.Proofs.Load.Address

/-! The states that a load can go through, one after the other. Every step of a load is a transition
of one of five sorts, whatever is fetched and whatever the check says, and a load can go over to the
address of the index file once at most. -/
namespace SdkFeed.Load

namespace State

/-- The states that may follow a state at the same address. -/
def followers : State → List State
  | start => [fetching]
  | fetching => [fetched, fetchFailed]
  | fetched => [detectingVersion]
  | detectingVersion => [versionSupported, versionTooNew, noVersion]
  | versionSupported => [validating]
  | versionTooNew => [probing]
  | validating => [validated, validatorMissing, validationFailed]
  | validated => [parsing, failed]
  | probing => [probed, probeFailed]
  | probed => [parsing]
  | parsing => [parsed, failed]
  | fetchFailed | noVersion | validationFailed | validatorMissing | probeFailed => [failed]
  | parsed | failed => []

/-- The states in which a load goes on at another address. -/
def restarts : State → List State
  | fetching => [fetching]
  | noVersion | validationFailed => [fetched]
  | _ => []

theorem failed_mem_followers {state : State} (hRestart : .fetched ∈ state.restarts) :
    .failed ∈ state.followers := by
  cases state with
  | noVersion | validationFailed => decide
  | fetching =>
      cases hRestart with
      | tail _ hRest => cases hRest
  | start | fetchFailed | fetched | detectingVersion | versionSupported | versionTooNew | validating
  | validatorMissing | validated | probing | probeFailed | probed | parsing | parsed | failed =>
      cases hRestart

end State

variable {σ : Type} {services : Services σ} {request : Request} {forceOpen : Bool}
  {before after run : Run σ} {state next : State}

/-- Whether a load may still go over to the address of the index file. -/
def Run.isMovable (request : Request) (run : Run σ) : Bool :=
  !run.isAlternate && !endsIn run.url request.indexFile

/-- A load goes over to the address of the index file. -/
structure GoesOver (request : Request) (before after : Run σ) : Prop where
  isMovable : before.isMovable request = true
  isAlternate : after.isAlternate = true
  url : after.url = alternateUrl before.url request.indexFile

theorem Run.isMovable_of_isAlternate (hAlternate : run.isAlternate = true) :
    run.isMovable request = false := by
  rw [isMovable, hAlternate]
  rfl

theorem Stays.isMovable (hStays : Stays before after) :
    after.isMovable request = before.isMovable request := by
  rw [Run.isMovable, Run.isMovable, hStays.1, hStays.2]

/-- The transitions of a load between its states. -/
inductive Transition (request : Request) (before after : Run σ) : State → State → Prop where
  | stay {state next : State} (hNext : next ∈ state.followers) (hFetching : state ≠ .fetching)
      (hStays : Stays before after) (hCalls : after.calls = before.calls) :
      Transition request before after state next
  | fetch {next : State} (hNext : next ∈ State.fetching.followers) (hStays : Stays before after)
      (hCalls : after.calls = before.calls ++ [before.url]) :
      Transition request before after .fetching next
  /-- Nothing is at the address, and the index file is fetched next. -/
  | again (hOver : GoesOver request before after)
      (hCalls : after.calls = before.calls ++ [before.url]) :
      Transition request before after .fetching .fetching
  /-- The index file is fetched in place of the document. -/
  | retry {state : State} (hState : .fetched ∈ state.restarts)
      (hOver : GoesOver request before after)
      (hCalls : after.calls = before.calls ++ [after.url]) :
      Transition request before after state .fetched
  /-- The index file cannot be fetched. -/
  | lose {state : State} (hState : .fetched ∈ state.restarts)
      (hMovable : before.isMovable request = true) (hStays : Stays before after)
      (hCalls : after.calls = before.calls ++ [alternateUrl before.url request.indexFile]) :
      Transition request before after state .failed

section Handlers

theorem Run.softFail_calls (run : Run σ) (kind : ErrorKind) (message : String) :
    (run.softFail kind message).calls = run.calls := by
  rw [softFail]
  split <;> rfl

theorem Run.reportAlternate_calls (run : Run σ) : run.reportAlternate.calls = run.calls := by
  rw [reportAlternate]
  split <;> rfl

theorem onFetching_transition (hStep : onFetching services request before = (after, .ok next)) :
    Transition request before after .fetching next := by
  simp only [onFetching, Run.fetch] at hStep
  split at hStep
  · rename_i bytes fetched hFetch
    obtain ⟨_, rfl⟩ := Prod.mk.inj hFetch
    cases hStep
    exact .fetch (by decide) ⟨rfl, rfl⟩ rfl
  · rename_i cause lost hFetch
    obtain ⟨_, rfl⟩ := Prod.mk.inj hFetch
    split at hStep
    · rename_i hMovable
      cases hStep
      exact .again ⟨hMovable, rfl, rfl⟩ rfl
    · cases hStep
      exact .fetch (by decide) ⟨rfl, rfl⟩ rfl

/-- A step that is taken again at the address of the index file, if that is left to try, after an
error has been recorded. -/
theorem retry_transition {marked : Run σ} (hState : .fetched ∈ state.restarts)
    (hMarked : Stays before marked)
    (hCalls : marked.calls = before.calls)
    (hStep : (if marked.canRetry request then marked.retry services request
      else (marked, .ok .failed)) = (after, .ok next)) :
    Transition request before after state next := by
  have hFetching : state ≠ .fetching := by
    rintro rfl
    cases hState with
    | tail _ hRest => cases hRest
  split at hStep
  · rename_i hRetry
    have hMovable : before.isMovable request = true := by
      rw [Run.canRetry, Bool.and_assoc, Bool.and_eq_true] at hRetry
      exact hMarked.isMovable.symm.trans hRetry.2
    simp only [Run.retry, Run.fetch] at hStep
    split at hStep
    · rename_i cause lost hFetch
      obtain ⟨_, rfl⟩ := Prod.mk.inj hFetch
      cases hStep
      exact .lose hState hMovable hMarked (by rw [hCalls, hMarked.2])
    · rename_i bytes fetched hFetch
      obtain ⟨_, rfl⟩ := Prod.mk.inj hFetch
      cases hStep
      exact .retry hState ⟨hMovable, rfl, by rw [hMarked.2]⟩ (by rw [hCalls])
  · cases hStep
    exact .stay (State.failed_mem_followers hState) hFetching hMarked hCalls

theorem onDetecting_next (hStep : onDetecting request before = (after, .ok next)) :
    next ∈ State.detectingVersion.followers ∧ after.calls = before.calls := by
  rw [onDetecting] at hStep
  split at hStep
  · cases hStep
  · cases hStep
    exact ⟨by decide, rfl⟩
  · split at hStep
    · cases hStep
      exact ⟨by decide, rfl⟩
    · split at hStep <;> cases hStep <;> exact ⟨by decide, rfl⟩

theorem onValidating_next (hStep : onValidating services request before = (after, .ok next)) :
    next ∈ State.validating.followers ∧ after.calls = before.calls := by
  rw [onValidating] at hStep
  dsimp only at hStep
  split at hStep
  · cases hStep
  · split at hStep
    · cases hStep
      exact ⟨by decide, rfl⟩
    · cases hStep
      split <;> exact ⟨by decide, rfl⟩

theorem onValid_next (hStep : onValid before = (after, .ok next)) :
    next ∈ State.validated.followers ∧ after.calls = before.calls := by
  rw [onValid] at hStep
  split at hStep
  · cases hStep
  · cases hStep
    exact ⟨by decide, Run.softFail_calls _ _ _⟩
  · cases hStep
    exact ⟨by decide, Run.reportAlternate_calls _⟩

theorem onProbing_next (hStep : onProbing request before = (after, .ok next)) :
    next ∈ State.probing.followers ∧ after.calls = before.calls := by
  rw [onProbing] at hStep
  split at hStep <;> cases hStep <;> exact ⟨by decide, rfl⟩

theorem onParsing_next (hStep : onParsing request before = (after, .ok next)) :
    next ∈ State.parsing.followers ∧ after.calls = before.calls := by
  unfold onParsing at hStep
  extract_lets told at hStep
  have hTold : told.calls = before.calls := rfl
  clear_value told
  split at hStep
  · cases hStep
    exact ⟨by decide, hTold⟩
  · extract_lets index read at hStep
    have hRead : read.calls = before.calls := hTold
    clear_value read
    split at hStep
    · cases hStep
      exact ⟨by decide, (Run.softFail_calls _ _ _).trans hRead⟩
    · rename_i described _ packages hPackages
      have hDescribed : described.calls = before.calls := by
        simp only [described]
        split <;> exact hRead
      cases hStep
      exact ⟨by decide, hDescribed⟩

/-- Every step of a load is one of its transitions. -/
theorem step_transition (hOpen : state.isFinal = false)
    (hStep : step services request before state = (after, .ok next)) :
    Transition request before after state next := by
  have hStays : Stays before (step services request before state).1 → Stays before after := by
    rw [hStep]
    exact id
  cases state with
  | fetching => exact onFetching_transition hStep
  | noVersion =>
      exact retry_transition (by decide) (Run.softFail_stays _ _ _)
        (Run.softFail_calls _ _ _) hStep
  | validationFailed =>
      have hMarked : Stays before { before with
          error := before.validationError, errorKind := some .documentInvalid } := ⟨rfl, rfl⟩
      exact retry_transition (by decide) hMarked rfl hStep
  | detectingVersion =>
      obtain ⟨hNext, hCalls⟩ := onDetecting_next hStep
      exact .stay hNext nofun (hStays onDetecting_stays) hCalls
  | validating =>
      obtain ⟨hNext, hCalls⟩ := onValidating_next hStep
      exact .stay hNext nofun (hStays onValidating_stays) hCalls
  | validated =>
      obtain ⟨hNext, hCalls⟩ := onValid_next hStep
      exact .stay hNext nofun (hStays onValid_stays) hCalls
  | probing =>
      obtain ⟨hNext, hCalls⟩ := onProbing_next hStep
      exact .stay hNext nofun (hStays onProbing_stays) hCalls
  | parsing =>
      obtain ⟨hNext, hCalls⟩ := onParsing_next hStep
      exact .stay hNext nofun (hStays onParsing_stays) hCalls
  | probed =>
      cases hStep
      exact .stay (by decide) nofun (Run.reportAlternate_stays _) (Run.reportAlternate_calls _)
  | fetched =>
      cases hStep
      refine .stay (by decide) nofun ?_ ?_
      · split <;> exact ⟨rfl, rfl⟩
      · split <;> rfl
  | start | fetchFailed | versionSupported | versionTooNew | validatorMissing | probeFailed =>
      cases hStep
      exact .stay (by decide) nofun ⟨rfl, rfl⟩ rfl
  | parsed | failed => cases hOpen

end Handlers

end SdkFeed.Load
