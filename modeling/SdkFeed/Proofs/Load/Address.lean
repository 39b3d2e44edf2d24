import SdkFeed.Proofs.Load.Closing

/-! What every load keeps to, whatever is fetched and whatever the check says of it. A load goes over to
another address at most once, and not from the address of an index file; and it ends well only with
packages. -/
namespace SdkFeed.Load

variable {σ : Type} {services : Services σ} {request : Request} {forceOpen : Bool}
  {before after run : Run σ}

/-- A step of a load leaves its address as it is. -/
def Stays (before after : Run σ) : Prop :=
  after.isAlternate = before.isAlternate ∧ after.url = before.url

/-- A step of a load stays at its address, or leaves one that may be left. -/
def Moves (request : Request) (before after : Run σ) : Prop :=
  Stays before after ∨
    (before.isAlternate = false ∧ endsIn before.url request.indexFile = false ∧
      after.isAlternate = true)

theorem Stays.trans {middle : Run σ} (hFirst : Stays before middle) (hSecond : Stays middle after) :
    Stays before after :=
  ⟨hSecond.1.trans hFirst.1, hSecond.2.trans hFirst.2⟩

theorem Run.softFail_stays (run : Run σ) (kind : ErrorKind) (message : String) :
    Stays run (run.softFail kind message) := by
  rw [softFail]
  split <;> exact ⟨rfl, rfl⟩

theorem Run.reportAlternate_stays (run : Run σ) : Stays run run.reportAlternate := by
  rw [reportAlternate]
  split <;> exact ⟨rfl, rfl⟩

theorem Run.fetch_stays (run : Run σ) (services : Services σ) (url : String) :
    Stays run (run.fetch services url).2 :=
  ⟨rfl, rfl⟩

theorem Run.retry_moves (services : Services σ) (hRetry : run.canRetry request = true) :
    Moves request run (run.retry services request).1 := by
  simp only [canRetry, Bool.and_eq_true, Bool.not_eq_true'] at hRetry
  have hStays := run.fetch_stays services (alternateUrl run.url request.indexFile)
  rw [retry]
  rcases hFetch : run.fetch services (alternateUrl run.url request.indexFile) with ⟨answer, after⟩
  rw [hFetch] at hStays
  cases answer with
  | error cause => exact .inl hStays
  | ok bytes => exact .inr ⟨hRetry.1.2, hRetry.2, rfl⟩

theorem onFetching_moves : Moves request run (onFetching services request run).1 := by
  have hStays := run.fetch_stays services run.url
  rw [onFetching]
  rcases hFetch : run.fetch services run.url with ⟨answer, after⟩
  rw [hFetch] at hStays
  cases answer with
  | ok bytes => exact .inl hStays
  | error cause =>
      dsimp only
      split
      · rename_i hOpen
        simp only [Bool.and_eq_true, Bool.not_eq_true'] at hOpen
        rw [hStays.1, hStays.2] at hOpen
        exact .inr ⟨hOpen.1, hOpen.2, rfl⟩
      · exact .inl hStays

theorem onDetecting_stays : Stays run (onDetecting request run).1 := by
  rw [onDetecting]
  split
  · exact ⟨rfl, rfl⟩
  · exact ⟨rfl, rfl⟩
  · split
    · exact ⟨rfl, rfl⟩
    · split <;> exact ⟨rfl, rfl⟩

theorem onNoVersion_moves : Moves request run (onNoVersion services request run).1 := by
  have hStays := run.softFail_stays .unrecognizedDocument
    ("Failed to validate the XML for the repository at URL '" ++ run.url ++ "'")
  rw [onNoVersion]
  generalize run.softFail .unrecognizedDocument
    ("Failed to validate the XML for the repository at URL '" ++ run.url ++ "'") = failed at *
  split
  · rename_i hRetry
    have hMoves := Run.retry_moves services hRetry
    rw [Moves, Stays, hStays.1, hStays.2] at hMoves
    exact hMoves
  · exact .inl hStays

theorem onValidating_stays : Stays run (onValidating services request run).1 := by
  rw [onValidating]
  dsimp only
  split
  · exact ⟨rfl, rfl⟩
  · split <;> exact ⟨rfl, rfl⟩

theorem onInvalid_moves : Moves request run (onInvalid services request run).1 := by
  rw [onInvalid]
  split
  · rename_i hRetry
    exact Run.retry_moves services hRetry
  · exact .inl ⟨rfl, rfl⟩

theorem onValid_stays : Stays run (onValid run).1 := by
  rw [onValid]
  split
  · exact ⟨rfl, rfl⟩
  · refine Stays.trans ?_ (Run.softFail_stays _ _ _)
    exact ⟨rfl, rfl⟩
  · refine Stays.trans ?_ (Run.reportAlternate_stays _)
    exact ⟨rfl, rfl⟩

theorem onProbing_stays : Stays run (onProbing request run).1 := by
  rw [onProbing]
  split <;> exact ⟨rfl, rfl⟩

theorem onParsing_stays : Stays run (onParsing request run).1 := by
  unfold onParsing
  extract_lets told
  have hTold : Stays run told := ⟨rfl, rfl⟩
  clear_value told
  split
  · exact hTold
  · extract_lets index read
    have hRead : Stays run read := hTold
    clear_value read
    split
    · exact hRead.trans (Run.softFail_stays _ _ _)
    · rename_i described _ packages hPackages
      have hDescribed : Stays run described := by
        simp only [described]
        split <;> exact hRead
      exact hDescribed

/-- Every step of a load stays at its address, or leaves one that may be left. -/
theorem step_moves (services : Services σ) (request : Request) (run : Run σ) (state : State) :
    Moves request run (step services request run state).1 := by
  cases state with
  | fetching => exact onFetching_moves
  | noVersion => exact onNoVersion_moves
  | validationFailed => exact onInvalid_moves
  | detectingVersion => exact .inl onDetecting_stays
  | validating => exact .inl onValidating_stays
  | validated => exact .inl onValid_stays
  | probing => exact .inl onProbing_stays
  | parsing => exact .inl onParsing_stays
  | probed => exact .inl (Run.reportAlternate_stays run)
  | fetched =>
      refine .inl ?_
      rw [step]
      split <;> exact ⟨rfl, rfl⟩
  | start | fetchFailed | versionSupported | versionTooNew | validatorMissing | probeFailed
  | parsed | failed => exact .inl ⟨rfl, rfl⟩

theorem onParsing_parsed (hStep : onParsing request before = (after, .ok .parsed)) :
    after.packages.isSome = true := by
  unfold onParsing at hStep
  extract_lets told at hStep
  clear_value told
  split at hStep
  · cases (Prod.mk.inj hStep).2
  · extract_lets index read at hStep
    clear_value read
    split at hStep
    · cases (Prod.mk.inj hStep).2
    · rw [← (Prod.mk.inj hStep).1]
      rfl

theorem Run.retry_open (hRetry : before.retry services request = (after, .ok .parsed)) : False := by
  rw [retry] at hRetry
  split at hRetry <;> cases (Prod.mk.inj hRetry).2

/-- Only reading the packages ends a load well. -/
theorem step_parsed {state : State} (hOpen : state.isFinal = false)
    (hStep : step services request before state = (after, .ok .parsed)) :
    after.packages.isSome = true := by
  cases state with
  | parsing => exact onParsing_parsed hStep
  | fetching =>
      rw [step, onFetching] at hStep
      split at hStep
      · cases (Prod.mk.inj hStep).2
      · dsimp only at hStep
        split at hStep <;> cases (Prod.mk.inj hStep).2
  | noVersion =>
      rw [step, onNoVersion] at hStep
      split at hStep
      · exact (Run.retry_open hStep).elim
      · cases (Prod.mk.inj hStep).2
  | validationFailed =>
      rw [step, onInvalid] at hStep
      split at hStep
      · exact (Run.retry_open hStep).elim
      · cases (Prod.mk.inj hStep).2
  | detectingVersion =>
      rw [step, onDetecting] at hStep
      split at hStep
      · cases (Prod.mk.inj hStep).2
      · cases (Prod.mk.inj hStep).2
      · split at hStep
        · cases (Prod.mk.inj hStep).2
        · split at hStep <;> cases (Prod.mk.inj hStep).2
  | validating =>
      rw [step, onValidating] at hStep
      dsimp only at hStep
      split at hStep
      · cases (Prod.mk.inj hStep).2
      · split at hStep
        · cases (Prod.mk.inj hStep).2
        · split at hStep <;> cases (Prod.mk.inj hStep).2
  | validated =>
      rw [step, onValid] at hStep
      split at hStep <;> cases (Prod.mk.inj hStep).2
  | probing =>
      rw [step, onProbing] at hStep
      split at hStep <;> cases (Prod.mk.inj hStep).2
  | start | fetchFailed | versionSupported | versionTooNew | validatorMissing | probeFailed
  | probed | fetched => cases (Prod.mk.inj hStep).2
  | parsed | failed => cases hOpen

/-- What holds of a load in each of its states. -/
structure IsOnTrack (request : Request) (forceOpen : Bool) (state : State) (run : Run σ) : Prop where
  url : run.isAlternate = false → run.url = request.address forceOpen
  alternate : run.isAlternate = true →
    endsIn (request.address forceOpen) request.indexFile = false
  parsed : state = .parsed → run.packages.isSome = true

theorem IsOnTrack.start (request : Request) (forceOpen : Bool) (services : σ) :
    IsOnTrack request forceOpen .start (.start request forceOpen services) :=
  ⟨fun _ => rfl, nofun, nofun⟩

theorem IsOnTrack.step {state next : State} (hTrack : IsOnTrack request forceOpen state before)
    (hOpen : state.isFinal = false)
    (hStep : step services request before state = (after, .ok next)) :
    IsOnTrack request forceOpen next (after.enter next) := by
  have hMoves := step_moves services request before state
  rw [hStep] at hMoves
  refine ⟨?_, ?_, ?_⟩
  -- Only a load at its first address moves, so the address it leaves is the one it began with.
  · intro hFirst
    rcases hMoves with ⟨hAlternate, hUrl⟩ | ⟨_, _, hAlternate⟩
    · exact hUrl.trans (hTrack.url (hAlternate.symm.trans hFirst))
    · exact absurd (hAlternate.symm.trans hFirst) nofun
  · intro hSecond
    rcases hMoves with ⟨hAlternate, _⟩ | ⟨hFirst, hEnds, _⟩
    · exact hTrack.alternate (hAlternate.symm.trans hSecond)
    · rw [← hTrack.url hFirst]
      exact hEnds
  · rintro rfl
    have hPackages := step_parsed hOpen hStep
    exact hPackages

/-- A load keeps on its track for any number of steps. -/
theorem IsOnTrack.drive {steps : Nat} {state last : State}
    (hTrack : IsOnTrack request forceOpen state before)
    (hDrive : drive services request steps state before = (after, .ok last)) :
    IsOnTrack request forceOpen last after :=
  drive_invariant (IsOnTrack request forceOpen)
    (fun _ _ _ _ hOpen hStep hBefore => hBefore.step hOpen hStep) hTrack hDrive

/-- What a load brings to its source: packages, and perhaps another address, or neither. -/
theorem load_brings {state : σ} {outcome : Outcome}
    (hLoad : (load services request forceOpen state).2 = .ok outcome) :
    outcome.state = .parsed ∧ outcome.packages.isSome = true ∧
        outcome.url = (if outcome.usedAlternate then
          alternateUrl request.source.url request.indexFile else request.source.url) ∧
        (outcome.usedAlternate = true →
          endsIn (request.address forceOpen) request.indexFile = false) ∨
      outcome.state = .failed ∧ outcome.packages = none ∧ outcome.url = request.source.url := by
  rw [load, loadWithin] at hLoad
  rcases hDrive : drive services request stepLimit .start (.start request forceOpen state) with
    ⟨run, ending⟩
  rw [hDrive] at hLoad
  cases ending with
  | error crash => cases hLoad
  | ok last =>
      have hTrack := (IsOnTrack.start request forceOpen state).drive hDrive
      obtain rfl := Except.ok.inj hLoad
      rw [(finish_eq request _ _).2]
      rw [giveUp]
      cases last with
      | parsed => exact .inl ⟨rfl, hTrack.parsed rfl, rfl, hTrack.alternate⟩
      | _ => exact .inr ⟨rfl, rfl, rfl⟩

end SdkFeed.Load
