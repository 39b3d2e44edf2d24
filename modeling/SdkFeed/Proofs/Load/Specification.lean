import SdkFeed.Proofs.Load.Agreement

/-! A load against its specification by attempts. The load ends well just where one of its attempts
does, and otherwise tells what the deciding attempt came to. -/
namespace SdkFeed.Load

variable {σ : Type} {fetch : σ → String → Except Fetch.Cause (List UInt8) × σ}
  {validator : Schema.Validator} {request : Request} {forceOpen : Bool} {state : σ}

namespace Trial

/-- The attempts of a load come from what is fetched for them. -/
theorem ofLoad_eq_ok {trial : Trial}
    (hTrial : ofLoad fetch validator request forceOpen state = .ok trial) :
    Attempt.ofAnswer validator request.source.kind (request.address forceOpen)
      (fetch state (request.address forceOpen)).1 = .ok trial.first ∧
    match trial.second? with
    | none => (trial.first.leadsOn && !endsIn (request.address forceOpen) request.indexFile) = false
    | some second =>
      (trial.first.leadsOn && !endsIn (request.address forceOpen) request.indexFile) = true ∧
        Attempt.ofAnswer validator request.source.kind (request.fallback forceOpen)
          (fetch (fetch state (request.address forceOpen)).2 (request.fallback forceOpen)).1 =
            .ok second := by
  obtain ⟨first, hFirst, hRest⟩ := bind_eq_ok.mp hTrial
  cases hOn : first.leadsOn && !endsIn (request.address forceOpen) request.indexFile with
  | false =>
      simp only [hOn] at hRest
      obtain rfl := Except.ok.inj hRest
      exact ⟨hFirst, hOn⟩
  | true =>
      simp only [hOn] at hRest
      obtain ⟨second, hSecond, hPair⟩ := bind_eq_ok.mp hRest
      obtain rfl := Except.ok.inj hPair
      exact ⟨hFirst, hOn, hSecond⟩

/-- There is a second attempt just where the first one leads on and the address is not that of an
index file. -/
theorem second?_isSome {trial : Trial}
    (hTrial : ofLoad fetch validator request forceOpen state = .ok trial) :
    trial.second?.isSome = true ↔ trial.first.leadsOn = true ∧
      endsIn (request.address forceOpen) request.indexFile = false := by
  obtain ⟨_, hSecond⟩ := ofLoad_eq_ok hTrial
  rw [← Attempt.leadsOn_and]
  split at hSecond
  · rename_i hNone
    rw [hNone, hSecond]
    exact iff_of_false nofun nofun
  · rename_i second hSome
    rw [hSome, hSecond.1]
    exact iff_of_true rfl rfl

/-- A usable attempt is the last one, and it decides. -/
theorem decisive_isUsable {trial : Trial}
    (hTrial : ofLoad fetch validator request forceOpen state = .ok trial) :
    (trial.decisive request forceOpen).1.isUsable = true ↔
      trial.first.isUsable = true ∨
        ∃ second, trial.second? = some second ∧ second.isUsable = true := by
  obtain ⟨_, hSecond⟩ := ofLoad_eq_ok hTrial
  obtain ⟨first, second?⟩ := trial
  cases second? with
  | none => simp [decisive]
  | some second =>
      obtain ⟨hLeadsOn, _⟩ := Attempt.leadsOn_and.mp hSecond.1
      have hFirst : first.isUsable = false := by
        cases first <;> first | rfl | cases hLeadsOn
      simp only [decisive, hFirst, Option.some.injEq, exists_eq_left', Bool.false_eq_true, false_or]
      split
      · rfl
      · rename_i hLight
        have hUnusable : second.isUsable = false := by
          cases second with
          | usable => cases first <;> exact absurd rfl hLight
          | unfetched | unrecognized | invalid | unchecked | tooNew | unreadable => rfl
        rw [hFirst, hUnusable]

theorem outcome_state (trial : Trial) (request : Request) (forceOpen : Bool) :
    (trial.outcome request forceOpen).state =
      if (trial.decisive request forceOpen).1.isUsable then .parsed else .failed := by
  simp only [outcome]
  cases (trial.decisive request forceOpen).1 <;> rfl

theorem outcome_complaint (trial : Trial) (request : Request) (forceOpen : Bool) :
    ((trial.outcome request forceOpen).error, (trial.outcome request forceOpen).errorKind) =
      (trial.decisive request forceOpen).1.complaint request.hint
        (trial.decisive request forceOpen).2 := by
  simp only [outcome]
  split <;> rfl

end Trial

/-- A load does what its specification by attempts says. It fetches the address of the source, and
the index file below it just where the first attempt leads on and the address is not that of an
index file already; it ends with packages just where one of the attempts is usable; and otherwise
it fails with the error of the first attempt, unless the second one outweighs it. A load without a
trial crashes. -/
theorem load_follows_trial (fetch : σ → String → Except Fetch.Cause (List UInt8) × σ)
    (validator : Schema.Validator) (request : Request) (forceOpen : Bool) (state : σ) :
    match Trial.ofLoad fetch validator request forceOpen state with
    | .error crash => (load (.withValidator fetch validator) request forceOpen state).2 = .error crash
    | .ok trial =>
      (load (.withValidator fetch validator) request forceOpen state).1.calls =
        trial.addresses request forceOpen ∧
      (trial.second?.isSome = true ↔ trial.first.leadsOn = true ∧
        endsIn (request.address forceOpen) request.indexFile = false) ∧
      ∃ outcome, (load (.withValidator fetch validator) request forceOpen state).2 = .ok outcome ∧
        outcome = trial.outcome request forceOpen ∧
        (outcome.state = .parsed ↔ trial.first.isUsable = true ∨
          ∃ second, trial.second? = some second ∧ second.isUsable = true) ∧
        (outcome.state ≠ .parsed → outcome.state = .failed ∧
          (outcome.error, outcome.errorKind) =
            (trial.decisive request forceOpen).1.complaint request.hint
              (trial.decisive request forceOpen).2) := by
  split
  · rename_i crash hTrial
    exact crashes_of_ofLoad hTrial
  · rename_i trial hTrial
    have hAgrees := agrees_of_ofLoad hTrial
    refine ⟨hAgrees.calls, Trial.second?_isSome hTrial, _, hAgrees.outcome, rfl, ?_, ?_⟩
    · rw [Trial.outcome_state, ← Trial.decisive_isUsable hTrial]
      cases (trial.decisive request forceOpen).1.isUsable with
      | true => exact iff_of_true rfl rfl
      | false => exact iff_of_false nofun nofun
    · intro hFailed
      refine ⟨?_, Trial.outcome_complaint trial request forceOpen⟩
      rw [Trial.outcome_state] at hFailed ⊢
      split
      · rename_i hUsable
        exact absurd (if_pos hUsable) hFailed
      · rfl

/-- An empty index of the newest version whose document type has a name with two colons. -/
def misnamedIndex : List UInt8 :=
  asciiBytes (['<', '!', 'D', 'O', 'C', 'T', 'Y', 'P', 'E', ' ', 'a', ':', 'b', ':', 'c', '>'] ++
    indexTag ++ ['/', '>'])

/-- The misnamed index is valid, and still a load of it fails: names in declarations are judged by
the reader of the tree alone. -/
theorem misnamed_load_fails :
    Feed.detectVersion .repository misnamedIndex = .ok 3 ∧
    (Schema.Validator.standard.validate ⟨.repository, 3⟩ "https://sdk.test/repository.xml"
      misnamedIndex).toOption.map Schema.Validation.isValid = some true ∧
    ∃ outcome, (load (.withValidator serving .standard)
        (.ofUrl "https://sdk.test/repository.xml") false [misnamedIndex]).2 =
          .ok outcome ∧
      outcome.state = .failed ∧ outcome.errorKind = some .parseFailed := by
  have hTrial : Trial.ofLoad serving .standard
      (.ofUrl "https://sdk.test/repository.xml") false [misnamedIndex] =
      .ok ⟨.unreadable 3, none⟩ := by decide +kernel
  exact ⟨by decide +kernel, by decide +kernel, _, (agrees_of_ofLoad hTrial).outcome, rfl, rfl⟩

end SdkFeed.Load
