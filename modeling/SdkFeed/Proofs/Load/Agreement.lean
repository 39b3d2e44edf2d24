import SdkFeed.Proofs.Load.Closing

/-! A load keeps to its attempts. After each document the run is told apart from a fresh one by a few
marks alone, so a second document meets a run that differs from the first one's in those marks; from
there every load ends as its attempts say, or crashes where one of them comes to nothing. -/
namespace SdkFeed.Load

variable {σ : Type} {fetch : σ → String → Except Fetch.Cause (List UInt8) × σ}
  {validator : Schema.Validator} {request : Request} {forceOpen : Bool} {state : σ}

/-- Every document ends the load where no other address is left to try. -/
theorem Leads.ends {used : Nat} {before : State × Run σ} {run : Run σ} {attempt : Attempt}
    (hLeads : Leads (.withValidator fetch validator) request used before (.fetched, run))
    (hJudged : Judged validator request.source.kind run.url run.bytes attempt)
    (hPlain : run.isSalvaged = false) (hStays : run.canRetry request = false) :
    ∃ (more : Nat) (after : Run σ), more ≤ used + 6 ∧
      Leads (.withValidator fetch validator) request more before (attempt.final, after) ∧
      after.bare = (attempt.mark request run).bare := by
  cases hLeadsOn : attempt.leadsOn with
  | false => exact hLeads.final hJudged hPlain hLeadsOn
  | true =>
      obtain ⟨more, state, ready, marked, hMore, hOpen, hReady, hBare, hStep⟩ :=
        hLeads.leadsOn hJudged hLeadsOn
      have hMarked : marked.canRetry request = false := by
        rw [bare_canRetry hBare, mark_canRetry, hStays]
      rw [hMarked] at hStep
      have hFinal : attempt.final = .failed := by
        cases attempt <;> first | rfl | cases hLeadsOn
      rw [hFinal]
      exact ⟨more + 1, _, by omega, hReady.andThen hOpen hStep, hBare⟩

section Fetching

variable {run : Run σ} {after : σ} {bytes : List UInt8} {cause : Fetch.Cause}

theorem onFetching_ok (hFetch : fetch run.services run.url = (.ok bytes, after)) :
    onFetching (.withValidator fetch validator) request run =
      ({ run with
        services := after
        calls := run.calls ++ [run.url]
        bytes
        failure := none }, .ok .fetched) := by
  simp only [onFetching, Run.fetch, Services.withValidator, hFetch]

theorem onFetching_again (hFetch : fetch run.services run.url = (.error cause, after))
    (hAlternate : run.isAlternate = false) (hEnds : endsIn run.url request.indexFile = false) :
    onFetching (.withValidator fetch validator) request run =
      ({ run with
        services := after
        calls := run.calls ++ [run.url]
        failure := some (Fetch.classify run.url cause)
        url := alternateUrl run.url request.indexFile
        isAlternate := true }, .ok .fetching) := by
  simp only [onFetching, Run.fetch, Services.withValidator, hFetch, hAlternate, hEnds]
  rfl

theorem onFetching_failed (hFetch : fetch run.services run.url = (.error cause, after))
    (hLast : (!run.isAlternate && !endsIn run.url request.indexFile) = false) :
    onFetching (.withValidator fetch validator) request run =
      ({ run with
        services := after
        calls := run.calls ++ [run.url]
        failure := some (Fetch.classify run.url cause) }, .ok .fetchFailed) := by
  simp only [onFetching, Run.fetch, Services.withValidator, hFetch, hLast]
  rfl

theorem retry_ok
    (hFetch : fetch run.services (alternateUrl run.url request.indexFile) = (.ok bytes, after)) :
    run.retry (.withValidator fetch validator) request =
      ({ run.moved after (run.calls ++ [alternateUrl run.url request.indexFile])
          (alternateUrl run.url request.indexFile) with bytes }, .ok .fetched) := by
  simp only [Run.retry, Run.fetch, Services.withValidator, hFetch]
  rfl

theorem retry_error
    (hFetch : fetch run.services (alternateUrl run.url request.indexFile) = (.error cause, after)) :
    run.retry (.withValidator fetch validator) request =
      (run.called after (run.calls ++ [alternateUrl run.url request.indexFile]),
        .ok .failed) := by
  simp only [Run.retry, Run.fetch, Services.withValidator, hFetch]
  rfl

/-- A document that cannot be judged breaks the load off. -/
theorem Leads.breaks {used : Nat} {before : State × Run σ} {crash : Crash}
    (hLeads : Leads (.withValidator fetch validator) request used before (.fetched, run))
    (hCrash : Attempt.ofBytes validator request.source.kind run.url run.bytes = .error crash) :
    ∃ more ≤ used + 4, Crashes (.withValidator fetch validator) request more before crash := by
  rcases Attempt.ofBytes_eq_error hCrash with ⟨fault, rfl, hVersion⟩ |
    ⟨version, breakdown, rfl, hVersion, hSupports, hAnswer⟩
  · obtain ⟨reports, trace, hDetecting⟩ := hLeads.detecting
    have hStep : onDetecting request { run with reports, trace } =
        ({ run with reports, trace }, .error (.encoding fault)) := by
      simp only [onDetecting, hVersion]
    exact ⟨_, by omega, hDetecting.crashes (.of_step rfl hStep)⟩
  · obtain ⟨reports, trace, hChecking⟩ := hLeads.validating hVersion hSupports
    obtain ⟨broken, hStep⟩ :=
      onValidating_error fetch { run with reports, trace, version } hAnswer
    exact ⟨_, by omega, hChecking.crashes (.of_step rfl hStep)⟩

end Fetching

/-- An attempt that leads on tells an error. -/
theorem Judged.told {kind : Feed.Kind} {url : String} {bytes : List UInt8} {attempt : Attempt}
    (hJudged : Judged validator kind url bytes attempt) (hLeadsOn : attempt.leadsOn = true)
    (hint : Hint) (place : String) : (attempt.complaint hint place).1.isSome = true := by
  cases hJudged with
  | unrecognized => rfl
  | invalid hVersion hSupports hAnswer hValid => exact Schema.Validator.validate_error hAnswer hValid
  | unchecked | unreadable | read | tooNew | salvaged => cases hLeadsOn

theorem Judged.isFetched {kind : Feed.Kind} {url : String} {bytes : List UInt8} {attempt : Attempt}
    (hJudged : Judged validator kind url bytes attempt) : attempt.isFetched = true := by
  cases hJudged <;> rfl

theorem final_isFinal (attempt : Attempt) : attempt.final.isFinal = true := by
  cases attempt <;> rfl

theorem leads_start (services : Services σ) (request : Request) (forceOpen : Bool) (state : σ) :
    ∃ reports trace, Leads services request 1 (.start, .start request forceOpen state)
      (.fetching, { Run.start request forceOpen state with reports, trace }) := by
  have hStep : step services request (.start request forceOpen state) .start =
      (((Run.start request forceOpen state).report
        (.description ("Fetching " ++ request.address forceOpen))).report (.advance 1),
        .ok .fetching) := rfl
  have hFetching := Leads.of_step rfl hStep
  exact ⟨_, _, hFetching⟩

/-- What a load does, told by its attempts. -/
structure Agrees (fetch : σ → String → Except Fetch.Cause (List UInt8) × σ)
    (validator : Schema.Validator) (request : Request) (forceOpen : Bool) (state : σ)
    (trial : Trial) : Prop where
  calls : (load (.withValidator fetch validator) request forceOpen state).1.calls =
    trial.addresses request forceOpen
  outcome : (load (.withValidator fetch validator) request forceOpen state).2 =
    .ok (trial.outcome request forceOpen)

/-- It is enough to know the last run up to what a bare run lacks. -/
theorem Agrees.of_leads {trial : Trial} {used : Nat} {last : State} {after known : Run σ}
    (hLeads : Leads (.withValidator fetch validator) request used
      (.start, .start request forceOpen state) (last, after))
    (hFinal : last.isFinal = true) (hSteps : used ≤ stepLimit) (hBare : after.bare = known.bare)
    (hCalls : known.calls = trial.addresses request forceOpen)
    (hOutcome : known.closing request last = trial.outcome request forceOpen) :
    Agrees fetch validator request forceOpen state trial := by
  obtain ⟨hMade, hClosing⟩ := hLeads.load_eq hFinal hSteps
  exact ⟨hMade.trans ((bare_fields hBare).2.2.trans hCalls), by rw [hClosing, bare_closing hBare, hOutcome]⟩

section Assembly

variable {first second : σ} {bytes laterBytes : List UInt8} {cause : Fetch.Cause} {attempt : Attempt}

/-- The first document is fetched. -/
theorem leads_first (validator : Schema.Validator)
    (hFetch : fetch state (request.address forceOpen) = (.ok bytes, first)) :
    ∃ reports trace, Leads (.withValidator fetch validator) request 2
      (.start, .start request forceOpen state)
      (.fetched, { Run.begun request forceOpen first [request.address forceOpen] with
        bytes, reports, trace }) := by
  obtain ⟨reports, trace, hStart⟩ :=
    leads_start (.withValidator fetch validator) request forceOpen state
  exact ⟨_, _, hStart.andThen rfl (onFetching_ok hFetch)⟩

/-- The first fetch fails, and the index file below the address is fetched next. -/
theorem leads_again (validator : Schema.Validator)
    (hFetch : fetch state (request.address forceOpen) = (.error cause, first))
    (hEnds : endsIn (request.address forceOpen) request.indexFile = false) :
    ∃ reports trace, Leads (.withValidator fetch validator) request 2
      (.start, .start request forceOpen state)
      (.fetching, { Run.begun request forceOpen first [request.address forceOpen] with
        failure := some (Fetch.classify (request.address forceOpen) cause)
        url := request.fallback forceOpen
        isAlternate := true
        reports
        trace }) := by
  obtain ⟨reports, trace, hStart⟩ :=
    leads_start (.withValidator fetch validator) request forceOpen state
  exact ⟨_, _, hStart.andThen rfl (onFetching_again hFetch rfl hEnds)⟩

/-- The first document leads on to the index file below the address. -/
theorem leads_retry
    (hFetch : fetch state (request.address forceOpen) = (.ok bytes, first))
    (hJudged : Judged validator request.source.kind (request.address forceOpen) bytes attempt)
    (hLeadsOn : attempt.leadsOn = true)
    (hEnds : endsIn (request.address forceOpen) request.indexFile = false) :
    ∃ (more : Nat) (last : State) (ready marked : Run σ), more ≤ 6 ∧ last.isFinal = false ∧
      Leads (.withValidator fetch validator) request more
        (.start, .start request forceOpen state) (last, ready) ∧
      step (.withValidator fetch validator) request ready last =
        marked.retry (.withValidator fetch validator) request ∧
      marked.services = first ∧ marked.url = request.address forceOpen ∧
      marked.calls = [request.address forceOpen] ∧
      marked.bare = (attempt.mark request
        (.begun request forceOpen first [request.address forceOpen])).bare := by
  obtain ⟨reports, trace, hFetched⟩ := leads_first validator hFetch
  obtain ⟨more, last, ready, marked, hMore, hOpen, hReady, hBare, hStep⟩ :=
    hFetched.leadsOn hJudged hLeadsOn
  have hKnown : marked.bare = (attempt.mark request
      (.begun request forceOpen first [request.address forceOpen])).bare :=
    hBare.trans (bare_mark attempt rfl)
  have hRetry : marked.canRetry request = true := by
    rw [bare_canRetry hKnown, mark_canRetry]
    change (_ && !endsIn (request.address forceOpen) request.indexFile) = true
    rw [hEnds]
    rfl
  rw [hRetry] at hStep
  obtain ⟨hServices, hUrl, hCalls⟩ := bare_fields hKnown
  obtain ⟨hFirst, hAddress, hMade⟩ := mark_fields request attempt
    (.begun request forceOpen first [request.address forceOpen])
  exact ⟨more, last, ready, marked, hMore, hOpen, hReady, hStep, hServices.trans hFirst,
    hUrl.trans hAddress, hCalls.trans hMade, hKnown⟩

/-- The first document is fetched, and no other address is left to try. -/
theorem agrees_single
    (hFetch : fetch state (request.address forceOpen) = (.ok bytes, first))
    (hAttempt : Attempt.ofBytes validator request.source.kind
      (request.address forceOpen) bytes = .ok attempt)
    (hLast : (attempt.leadsOn &&
      !endsIn (request.address forceOpen) request.indexFile) = false) :
    Agrees fetch validator request forceOpen state ⟨attempt, none⟩ := by
  have hJudged := Attempt.ofBytes_judged hAttempt
  obtain ⟨reports, trace, hFetched⟩ := leads_first validator hFetch
  have hEnds : ∃ (more : Nat) (after : Run σ), more ≤ 2 + 6 ∧
      Leads (.withValidator fetch validator) request more
        (.start, .start request forceOpen state) (attempt.final, after) ∧
      after.bare = (attempt.mark request (.begun request forceOpen first
        [request.address forceOpen])).bare := by
    cases hLeadsOn : attempt.leadsOn with
    | false =>
        obtain ⟨more, after, hMore, hLeads, hBare⟩ := hFetched.final hJudged rfl hLeadsOn
        exact ⟨more, after, hMore, hLeads, hBare.trans (bare_mark attempt rfl)⟩
    | true =>
        rw [hLeadsOn, Bool.true_and, Bool.not_eq_false'] at hLast
        obtain ⟨more, after, hMore, hLeads, hBare⟩ := hFetched.ends hJudged rfl (by
          change (_ && !endsIn (request.address forceOpen) request.indexFile) = false
          rw [hLast, Bool.not_true, Bool.and_false])
        exact ⟨more, after, hMore, hLeads, hBare.trans (bare_mark attempt rfl)⟩
  obtain ⟨more, after, hMore, hLeads, hBare⟩ := hEnds
  exact .of_leads hLeads (final_isFinal attempt) (by unfold stepLimit; omega) hBare
    (mark_fields request attempt _).2.2 (outcome_single hJudged.isFetched)

/-- The first document leads on, and the second one is fetched. -/
theorem leads_double
    (hFetch : fetch state (request.address forceOpen) = (.ok bytes, first))
    (hJudged : Judged validator request.source.kind (request.address forceOpen) bytes attempt)
    (hLeadsOn : attempt.leadsOn = true)
    (hEnds : endsIn (request.address forceOpen) request.indexFile = false)
    (hAgain : fetch first (request.fallback forceOpen) = (.ok laterBytes, second)) :
    ∃ (more : Nat) (run : Run σ), more ≤ 7 ∧
      Leads (.withValidator fetch validator) request more
        (.start, .start request forceOpen state) (.fetched, run) ∧
      run.url = request.fallback forceOpen ∧ run.bytes = laterBytes ∧
      run.bare = ((attempt.mark request (.begun request forceOpen first
        [request.address forceOpen])).moved second
          [request.address forceOpen, request.fallback forceOpen]
          (request.fallback forceOpen)).bare := by
  obtain ⟨more, last, ready, marked, hMore, hOpen, hReady, hStep, hServices, hUrl, hCalls, hBare⟩ :=
    leads_retry hFetch hJudged hLeadsOn hEnds
  have hFallback : alternateUrl marked.url request.indexFile = request.fallback forceOpen := by
    rw [hUrl, Request.fallback]
  rw [retry_ok (by rw [hServices, hFallback]; exact hAgain), hFallback, hCalls] at hStep
  have hFetched := hReady.andThen hOpen hStep
  have hMoved : (marked.moved second [request.address forceOpen, request.fallback forceOpen]
      (request.fallback forceOpen)).bare = _ := bare_moved hBare
  exact ⟨_, _, by omega, hFetched, rfl, rfl, hMoved⟩

/-- The first document leads on, and the second one comes to something. -/
theorem agrees_double {later : Attempt}
    (hFetch : fetch state (request.address forceOpen) = (.ok bytes, first))
    (hAttempt : Attempt.ofBytes validator request.source.kind (request.address forceOpen) bytes =
      .ok attempt)
    (hLeadsOn : attempt.leadsOn = true)
    (hEnds : endsIn (request.address forceOpen) request.indexFile = false)
    (hAgain : fetch first (request.fallback forceOpen) = (.ok laterBytes, second))
    (hLater : Attempt.ofBytes validator request.source.kind (request.fallback forceOpen)
      laterBytes = .ok later) :
    Agrees fetch validator request forceOpen state ⟨attempt, some later⟩ := by
  have hJudged := Attempt.ofBytes_judged hAttempt
  obtain ⟨more, run, hMore, hFetched, hUrl, hBytes, hMoved⟩ :=
    leads_double hFetch hJudged hLeadsOn hEnds hAgain
  have hSecond := Attempt.ofBytes_judged hLater
  rw [← hUrl, ← hBytes] at hSecond
  have hPlain : run.isSalvaged = false := by
    have hSame := congrArg Run.isSalvaged hMoved
    refine hSame.trans ?_
    cases attempt <;> first | rfl | cases hLeadsOn
  have hStays : run.canRetry request = false := by
    rw [bare_canRetry hMoved]
    rfl
  obtain ⟨total, after, hTotal, hLeads, hBare⟩ := hFetched.ends hSecond hPlain hStays
  exact .of_leads hLeads (final_isFinal later) (by unfold stepLimit; omega)
    (hBare.trans (bare_mark later hMoved)) (mark_fields request later _).2.2
    (outcome_double hJudged.isFetched hLeadsOn (hJudged.told hLeadsOn) hSecond.isFetched)

/-- The first document leads on, and the second one cannot be fetched. -/
theorem agrees_lost
    (hFetch : fetch state (request.address forceOpen) = (.ok bytes, first))
    (hAttempt : Attempt.ofBytes validator request.source.kind (request.address forceOpen) bytes =
      .ok attempt)
    (hLeadsOn : attempt.leadsOn = true)
    (hEnds : endsIn (request.address forceOpen) request.indexFile = false)
    (hAgain : fetch first (request.fallback forceOpen) = (.error cause, second)) :
    Agrees fetch validator request forceOpen state
      ⟨attempt, some (.unfetched (Fetch.classify (request.fallback forceOpen) cause))⟩ := by
  have hJudged := Attempt.ofBytes_judged hAttempt
  obtain ⟨more, last, ready, marked, hMore, hOpen, hReady, hStep, hServices, hUrl, hCalls, hBare⟩ :=
    leads_retry hFetch hJudged hLeadsOn hEnds
  have hFallback : alternateUrl marked.url request.indexFile = request.fallback forceOpen := by
    rw [hUrl, Request.fallback]
  rw [retry_error (by rw [hServices, hFallback]; exact hAgain), hFallback, hCalls] at hStep
  have hCalled : (marked.called second
      [request.address forceOpen, request.fallback forceOpen]).bare = _ := bare_called hBare
  exact .of_leads (hReady.andThen hOpen hStep) rfl (by unfold stepLimit; omega)
    hCalled rfl (outcome_lost hJudged.isFetched hLeadsOn)

/-- The first fetch fails, and so does the second. -/
theorem agrees_unfetched_both {laterCause : Fetch.Cause}
    (hFetch : fetch state (request.address forceOpen) = (.error cause, first))
    (hEnds : endsIn (request.address forceOpen) request.indexFile = false)
    (hAgain : fetch first (request.fallback forceOpen) = (.error laterCause, second)) :
    Agrees fetch validator request forceOpen state
      ⟨.unfetched (Fetch.classify (request.address forceOpen) cause),
        some (.unfetched (Fetch.classify (request.fallback forceOpen) laterCause))⟩ := by
  obtain ⟨reports, trace, hFetching⟩ := leads_again validator hFetch hEnds
  have hFailed := hFetching.andThen rfl (onFetching_failed hAgain rfl)
  exact .of_leads (hFailed.andThen rfl rfl) rfl (by decide) rfl rfl
    (outcome_unfetched_both second [request.address forceOpen, request.fallback forceOpen] _ _)

/-- The first fetch fails, and no other address is left to try. -/
theorem agrees_unfetched
    (hFetch : fetch state (request.address forceOpen) = (.error cause, first))
    (hEnds : endsIn (request.address forceOpen) request.indexFile = true) :
    Agrees fetch validator request forceOpen state
      ⟨.unfetched (Fetch.classify (request.address forceOpen) cause), none⟩ := by
  obtain ⟨reports, trace, hStart⟩ :=
    leads_start (.withValidator fetch validator) request forceOpen state
  have hLast : (!false && !endsIn (request.address forceOpen) request.indexFile) = false := by
    rw [hEnds]
    rfl
  have hFailed := hStart.andThen rfl (onFetching_failed hFetch hLast)
  exact .of_leads (hFailed.andThen rfl rfl) rfl (by decide) rfl rfl
    (outcome_unfetched first [request.address forceOpen] _)

/-- The first fetch fails, and the second document comes to something. -/
theorem agrees_found {later : Attempt}
    (hFetch : fetch state (request.address forceOpen) = (.error cause, first))
    (hEnds : endsIn (request.address forceOpen) request.indexFile = false)
    (hAgain : fetch first (request.fallback forceOpen) = (.ok laterBytes, second))
    (hLater : Attempt.ofBytes validator request.source.kind (request.fallback forceOpen)
      laterBytes = .ok later) :
    Agrees fetch validator request forceOpen state
      ⟨.unfetched (Fetch.classify (request.address forceOpen) cause), some later⟩ := by
  obtain ⟨reports, trace, hFetching⟩ := leads_again validator hFetch hEnds
  have hFetched := hFetching.andThen rfl (onFetching_ok hAgain)
  have hJudged := Attempt.ofBytes_judged hLater
  obtain ⟨more, after, hMore, hLeads, hBare⟩ := hFetched.ends hJudged rfl rfl
  have hKnown : after.bare = (later.mark request
      { Run.begun request forceOpen second
          [request.address forceOpen, request.fallback forceOpen] with
        url := request.fallback forceOpen
        isAlternate := true }).bare := hBare.trans (bare_mark later rfl)
  exact .of_leads hLeads (final_isFinal later) (by unfold stepLimit; omega) hKnown
    (mark_fields request later _).2.2 (outcome_found hJudged.isFetched)

end Assembly

/-- A load does what its attempts tell. -/
theorem agrees_of_ofLoad {trial : Trial}
    (hTrial : Trial.ofLoad fetch validator request forceOpen state = .ok trial) :
    Agrees fetch validator request forceOpen state trial := by
  rcases hFetch : fetch state (request.address forceOpen) with ⟨answer, first⟩
  simp only [Trial.ofLoad, hFetch] at hTrial
  obtain ⟨attempt, hAttempt, hRest⟩ := bind_eq_ok.mp hTrial
  cases hOn : attempt.leadsOn && !endsIn (request.address forceOpen) request.indexFile with
  | false =>
      rw [hOn] at hRest
      obtain rfl := Except.ok.inj hRest
      cases answer with
      | ok bytes => exact agrees_single hFetch hAttempt hOn
      | error cause =>
          obtain rfl := Except.ok.inj hAttempt
          refine agrees_unfetched hFetch ?_
          simpa [Attempt.leadsOn] using hOn
  | true =>
      rw [hOn] at hRest
      obtain ⟨hLeadsOn, hEnds⟩ := Attempt.leadsOn_and.mp hOn
      obtain ⟨later, hLater, hTrial⟩ := bind_eq_ok.mp hRest
      obtain rfl := Except.ok.inj hTrial
      rcases hAgain : fetch first (request.fallback forceOpen) with ⟨laterAnswer, second⟩
      rw [hAgain] at hLater
      cases answer with
      | ok bytes =>
          cases laterAnswer with
          | ok laterBytes => exact agrees_double hFetch hAttempt hLeadsOn hEnds hAgain hLater
          | error cause =>
              obtain rfl := Except.ok.inj hLater
              exact agrees_lost hFetch hAttempt hLeadsOn hEnds hAgain
      | error cause =>
          obtain rfl := Except.ok.inj hAttempt
          cases laterAnswer with
          | ok laterBytes => exact agrees_found hFetch hEnds hAgain hLater
          | error laterCause =>
              obtain rfl := Except.ok.inj hLater
              exact agrees_unfetched_both hFetch hEnds hAgain

/-- A load crashes where one of its attempts comes to nothing. -/
theorem crashes_of_ofLoad {crash : Crash}
    (hTrial : Trial.ofLoad fetch validator request forceOpen state = .error crash) :
    (load (.withValidator fetch validator) request forceOpen state).2 = .error crash := by
  rcases hFetch : fetch state (request.address forceOpen) with ⟨answer, first⟩
  simp only [Trial.ofLoad, hFetch] at hTrial
  rcases bind_eq_error.mp hTrial with hCrash | ⟨attempt, hAttempt, hRest⟩
  · cases answer with
    | error cause => cases hCrash
    | ok bytes =>
        obtain ⟨reports, trace, hFetched⟩ := leads_first validator hFetch
        obtain ⟨used, hUsed, hCrashes⟩ := hFetched.breaks hCrash
        exact hCrashes.load_eq (by unfold stepLimit; omega)
  · cases hOn : attempt.leadsOn && !endsIn (request.address forceOpen) request.indexFile with
    | false =>
        rw [hOn] at hRest
        cases hRest
    | true =>
        rw [hOn] at hRest
        obtain ⟨hLeadsOn, hEnds⟩ := Attempt.leadsOn_and.mp hOn
        rcases hAgain : fetch first (request.fallback forceOpen) with ⟨laterAnswer, second⟩
        rcases bind_eq_error.mp hRest with hCrash | ⟨later, _, hTrial⟩
        · rw [hAgain] at hCrash
          cases laterAnswer with
          | error cause => cases hCrash
          | ok laterBytes =>
              cases answer with
              | error cause =>
                  obtain ⟨reports, trace, hFetching⟩ := leads_again validator hFetch hEnds
                  have hFetched := hFetching.andThen rfl (onFetching_ok hAgain)
                  obtain ⟨used, hUsed, hCrashes⟩ := hFetched.breaks hCrash
                  exact hCrashes.load_eq (by unfold stepLimit; omega)
              | ok bytes =>
                  obtain ⟨more, run, hMore, hFetched, hUrl, hBytes, _⟩ :=
                    leads_double hFetch (Attempt.ofBytes_judged hAttempt) hLeadsOn hEnds hAgain
                  obtain ⟨used, hUsed, hCrashes⟩ :=
                    hFetched.breaks (by rw [hUrl, hBytes]; exact hCrash)
                  exact hCrashes.load_eq (by unfold stepLimit; omega)
        · cases hTrial

/-- The bytes of characters that take one byte each. -/
def asciiBytes (chars : List Char) : List UInt8 :=
  chars.map fun c => UInt8.ofNat c.toNat

/-- The start tag of an index of the newest version, without its end:
`<sdk-repository xmlns="http://schemas.android.com/sdk/android/repository/3"`. -/
def indexTag : List Char :=
  ['<', 's', 'd', 'k', '-', 'r', 'e', 'p', 'o', 's', 'i', 't', 'o', 'r', 'y', ' ', 'x', 'm', 'l',
   'n', 's', '=', '"', 'h', 't', 't', 'p', ':', '/', '/', 's', 'c', 'h', 'e', 'm', 'a', 's', '.',
   'a', 'n', 'd', 'r', 'o', 'i', 'd', '.', 'c', 'o', 'm', '/', 's', 'd', 'k', '/', 'a', 'n', 'd',
   'r', 'o', 'i', 'd', '/', 'r', 'e', 'p', 'o', 's', 'i', 't', 'o', 'r', 'y', '/', '3', '"']

/-- An index of the newest version with one package, the tools of the platform: a revision of `1`, and
an archive of one byte at `a`, for any system. -/
def toolIndex : List UInt8 :=
  asciiBytes (indexTag ++
    ['>', '<', 'p', 'l', 'a', 't', 'f', 'o', 'r', 'm', '-', 't', 'o', 'o', 'l', '>', '<', 'r', 'e',
     'v', 'i', 's', 'i', 'o', 'n', '>', '1', '<', '/', 'r', 'e', 'v', 'i', 's', 'i', 'o', 'n', '>',
     '<', 'a', 'r', 'c', 'h', 'i', 'v', 'e', 's', '>', '<', 'a', 'r', 'c', 'h', 'i', 'v', 'e', ' ',
     'o', 's', '=', '"', 'a', 'n', 'y', '"', '>', '<', 's', 'i', 'z', 'e', '>', '1', '<', '/', 's',
     'i', 'z', 'e', '>', '<', 'c', 'h', 'e', 'c', 'k', 's', 'u', 'm', ' ', 't', 'y', 'p', 'e', '=',
     '"', 's', 'h', 'a', '1', '"', '>', '0', '1', '2', '3', '4', '5', '6', '7', '8', '9', '0', '1',
     '2', '3', '4', '5', '6', '7', '8', '9', '0', '1', '2', '3', '4', '5', '6', '7', '8', '9', '0',
     '1', '2', '3', '4', '5', '6', '7', '8', '9', '<', '/', 'c', 'h', 'e', 'c', 'k', 's', 'u', 'm',
     '>', '<', 'u', 'r', 'l', '>', 'a', '<', '/', 'u', 'r', 'l', '>', '<', '/', 'a', 'r', 'c', 'h',
     'i', 'v', 'e', '>', '<', '/', 'a', 'r', 'c', 'h', 'i', 'v', 'e', 's', '>', '<', '/', 'p', 'l',
     'a', 't', 'f', 'o', 'r', 'm', '-', 't', 'o', 'o', 'l', '>', '<', '/', 's', 'd', 'k', '-', 'r',
     'e', 'p', 'o', 's', 'i', 't', 'o', 'r', 'y', '>'])

/-- A repository at an address, to be loaded. -/
def Request.ofUrl (url : String) : Request :=
  ⟨.ofUrl url none .repository, .tools⟩

/-- Answer requests with documents in turn, and with empty ones when there are no more. -/
def serving (documents : List (List UInt8)) (_ : String) :
    Except Fetch.Cause (List UInt8) × List (List UInt8) :=
  (.ok (documents.headD []), documents.tail)

end SdkFeed.Load
