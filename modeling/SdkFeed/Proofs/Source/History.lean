import SdkFeed.Proofs.Source.Address

/-! A source through any number of loads and clearings. Every load may meet other services, and it may
crash; what the source is afterwards depends only on what came of each event. Events and moments
are listed with the last one first. -/
namespace SdkFeed.Source

open SdkFeed.Feed (Kind)

/-- What is done with a source. -/
inductive Event where
  | load {σ : Type} (services : Load.Services σ) (hint : Load.Hint) (forceOpen : Bool) (state : σ)
  | clear

/-- What comes of an event. -/
inductive Happening where
  | loaded (outcome : Load.Outcome)
  | crashed (crash : Load.Crash)
  | cleared

/-- What comes of an event at a source. -/
def happening (source : Source) : Event → Happening
  | .load services hint forceOpen state =>
    match (Load.load services ⟨source, hint⟩ forceOpen state).2 with
    | .ok outcome => .loaded outcome
    | .error crash => .crashed crash
  | .clear => .cleared

/-- The source after what happened to it. -/
def follow (source : Source) : Happening → Source
  | .loaded outcome => source.apply outcome
  | .crashed _ => source
  | .cleared => source.clear

/-- What happened to a source, and what the source was before. -/
structure Moment where
  before : Source
  happening : Happening

namespace Moment

/-- The source afterwards. -/
def after (moment : Moment) : Source :=
  moment.before.follow moment.happening

/-- Whether the address of the source changes. -/
def isMove (moment : Moment) : Bool :=
  moment.after.url != moment.before.url

end Moment

/-- The source after a list of events. -/
def after (source : Source) : List Event → Source
  | [] => source
  | event :: earlier => (source.after earlier).follow ((source.after earlier).happening event)

/-- The moments of a list of events. -/
def moments (source : Source) : List Event → List Moment
  | [] => []
  | event :: earlier =>
    ⟨source.after earlier, (source.after earlier).happening event⟩ :: source.moments earlier

/-- The packages of the last successful load that no clearing follows. -/
def latestPackages : List Moment → Option (List Package)
  | [] => none
  | moment :: earlier =>
    match moment.happening with
    | .loaded outcome => if outcome.isSuccess then outcome.packages else latestPackages earlier
    | .crashed _ => latestPackages earlier
    | .cleared => none

/-- What holds of a source after a list of events. -/
structure IsSteady (source : Source) (events : List Event) : Prop where
  packages : (source.after events).packages = latestPackages (source.moments events)
  kind : (source.after events).kind = source.kind
  name : (source.after events).name = source.name
  url : IsKept (source.after events).url
  failure : ∀ moment ∈ source.moments events, ∀ outcome, moment.happening = .loaded outcome →
    outcome.isSuccess = false → moment.after =
      { moment.before with description := outcome.description, fetchError := outcome.error }
  move : ∀ moment ∈ source.moments events, moment.isMove = true →
    ∃ outcome, moment.happening = .loaded outcome ∧ outcome.isSuccess = true ∧
      outcome.usedAlternate = true ∧
      moment.after.url = alternateUrl moment.before.url source.kind.family.indexFile
  moves : ((source.moments events).filter Moment.isMove).length ≤ 1

/-- What can come of an event at a source. -/
inductive Outcomes (source : Source) : Happening → Prop where
  | stay {outcome : Load.Outcome} {packages : List Package} (hSuccess : outcome.isSuccess = true)
      (hPackages : outcome.packages = some packages) (hUrl : outcome.url = source.url) :
      Outcomes source (.loaded outcome)
  | move {outcome : Load.Outcome} {packages : List Package} (hSuccess : outcome.isSuccess = true)
      (hPackages : outcome.packages = some packages) (hAlternate : outcome.usedAlternate = true)
      (hUrl : outcome.url = alternateUrl source.url source.kind.family.indexFile)
      (hEnds : endsIn source.url source.kind.family.indexFile = false) :
      Outcomes source (.loaded outcome)
  | failure {outcome : Load.Outcome} (hFailure : outcome.isSuccess = false)
      (hPackages : outcome.packages = none) (hUrl : outcome.url = source.url) :
      Outcomes source (.loaded outcome)
  | crashed (crash : Load.Crash) : Outcomes source (.crashed crash)
  | cleared : Outcomes source .cleared

/-- A load brings packages or leaves those that are there, and it goes over to the address of the
index file only from an address that does not name it. -/
theorem happening_outcomes (source : Source) (event : Event) :
    Outcomes source (source.happening event) := by
  cases event with
  | clear => exact .cleared
  | load services hint forceOpen state =>
      rw [happening]
      split
      · rename_i outcome hLoad
        rcases Load.load_brings hLoad with
          ⟨hState, hSome, hUrl, hAlternate⟩ | ⟨hState, hPackages, hUrl⟩
        · obtain ⟨packages, hPackages⟩ := Option.isSome_iff_exists.mp hSome
          have hSuccess : outcome.isSuccess = true := by rw [Load.Outcome.isSuccess, hState]; rfl
          cases hUsed : outcome.usedAlternate with
          | false =>
              rw [hUsed] at hUrl
              exact .stay hSuccess hPackages hUrl
          | true =>
              rw [hUsed] at hUrl
              refine .move hSuccess hPackages hUsed hUrl (Bool.eq_false_iff.mpr fun hEnds => ?_)
              have hFetched : endsIn (Load.fetchUrl forceOpen source.url)
                  source.kind.family.indexFile = true := Load.fetchUrl_endsIn hEnds
              exact absurd (hFetched.symm.trans (hAlternate hUsed)) nofun
        · exact .failure (by rw [Load.Outcome.isSuccess, hState]; rfl) hPackages hUrl
      · exact .crashed _

theorem follow_kind (source : Source) (happening : Happening) :
    (source.follow happening).kind = source.kind := by
  cases happening <;> rfl

theorem follow_name (source : Source) (happening : Happening) :
    (source.follow happening).name = source.name := by
  cases happening <;> rfl

variable {source : Source} {happening : Happening}

theorem Outcomes.follow_url (hOutcomes : Outcomes source happening) :
    (source.follow happening).url = source.url ∨
      (source.follow happening).url = alternateUrl source.url source.kind.family.indexFile ∧
        endsIn source.url source.kind.family.indexFile = false ∧
        ∃ outcome, happening = .loaded outcome ∧ outcome.isSuccess = true ∧
          outcome.usedAlternate = true := by
  cases hOutcomes with
  | stay _ _ hUrl | failure _ _ hUrl => exact .inl hUrl
  | move hSuccess _ hAlternate hUrl hEnds =>
      exact .inr ⟨hUrl, hEnds, _, rfl, hSuccess, hAlternate⟩
  | crashed | cleared => exact .inl rfl

theorem Outcomes.follow_failure {outcome : Load.Outcome}
    (hOutcomes : Outcomes source (.loaded outcome)) (hFailure : outcome.isSuccess = false) :
    source.follow (.loaded outcome) =
      { source with description := outcome.description, fetchError := outcome.error } := by
  cases hOutcomes with
  | stay hSuccess | move hSuccess => exact absurd (hSuccess.symm.trans hFailure) nofun
  | failure _ hPackages hUrl =>
      simp only [follow, apply, hPackages, hUrl]
      rfl

/-- The packages after an event are those that it leaves. -/
theorem Outcomes.follow_packages {earlier : List Moment} (hOutcomes : Outcomes source happening)
    (hEarlier : source.packages = latestPackages earlier) :
    (source.follow happening).packages = latestPackages (⟨source, happening⟩ :: earlier) := by
  cases hOutcomes with
  | stay hSuccess hPackages | move hSuccess hPackages =>
      simp only [follow, apply, latestPackages, hSuccess, hPackages]
      rfl
  | failure hFailure hPackages =>
      simp only [follow, apply, latestPackages, hFailure, hPackages, hEarlier]
      rfl
  | crashed | cleared => first | exact hEarlier | rfl

variable {events : List Event}

theorem after_kind (source : Source) (events : List Event) :
    (source.after events).kind = source.kind := by
  induction events with
  | nil => rfl
  | cons event earlier ih => exact (follow_kind _ _).trans ih

theorem after_name (source : Source) (events : List Event) :
    (source.after events).name = source.name := by
  induction events with
  | nil => rfl
  | cons event earlier ih => exact (follow_name _ _).trans ih

theorem after_packages (hFresh : source.packages = none) (events : List Event) :
    (source.after events).packages = latestPackages (source.moments events) := by
  induction events with
  | nil => exact hFresh
  | cons event earlier ih => exact (happening_outcomes _ event).follow_packages ih

theorem after_isKept (hKept : IsKept source.url) (events : List Event) :
    IsKept (source.after events).url := by
  induction events with
  | nil => exact hKept
  | cons event earlier ih =>
      rcases (happening_outcomes (source.after earlier) event).follow_url with
        hUrl | ⟨hUrl, hEnds, _⟩
      · rw [after, hUrl]
        exact ih
      · rw [after, hUrl]
        exact ih.alternateUrl hEnds

/-- Every moment is one of an event at the source that was there. -/
theorem moments_outcomes {moment : Moment} (hMoment : moment ∈ source.moments events) :
    moment.before.kind = source.kind ∧ Outcomes moment.before moment.happening := by
  induction events with
  | nil => cases hMoment
  | cons event earlier ih =>
      rcases List.mem_cons.mp hMoment with rfl | hEarlier
      · exact ⟨after_kind source earlier, happening_outcomes _ event⟩
      · exact ih hEarlier

/-- An address that has changed names the index file, and such an address changes no more. -/
theorem moves_le_one (source : Source) (events : List Event) :
    ((source.moments events).filter Moment.isMove).length ≤ 1 ∧
      (((source.moments events).filter Moment.isMove).length = 1 →
        endsIn (source.after events).url source.kind.family.indexFile = true) := by
  induction events with
  | nil => exact ⟨Nat.zero_le 1, nofun⟩
  | cons event earlier ih =>
      obtain ⟨hMost, hNamed⟩ := ih
      rw [← after_kind source earlier] at hNamed ⊢
      rw [moments, after, List.filter_cons]
      rcases (happening_outcomes (source.after earlier) event).follow_url with
        hUrl | ⟨hUrl, hEnds, _⟩
      · have hStill : Moment.isMove ⟨source.after earlier, (source.after earlier).happening event⟩ =
            false := by rw [Moment.isMove, Moment.after, hUrl, bne_self_eq_false]
        rw [hStill, hUrl]
        exact ⟨hMost, hNamed⟩
      · -- An earlier move would have left an address that names the index file.
        have hNone : ((source.moments earlier).filter Moment.isMove).length = 0 := by
          have hOther := mt hNamed (by rw [hEnds]; exact nofun)
          omega
        refine ⟨?_, fun _ => ?_⟩
        · split
          · rw [List.length_cons, hNone]
          · rw [hNone]
            exact Nat.zero_le 1
        · rw [hUrl]
          exact alternateUrl_endsIn _ _

theorem isSteady_of_fresh (hFresh : source.packages = none) (hKept : IsKept source.url)
    (events : List Event) : source.IsSteady events where
  packages := after_packages hFresh events
  kind := after_kind source events
  name := after_name source events
  url := after_isKept hKept events
  failure := by
    intro moment hMoment outcome hLoaded hFailure
    have hOutcomes := (moments_outcomes hMoment).2
    rw [hLoaded] at hOutcomes
    rw [Moment.after, hLoaded]
    exact hOutcomes.follow_failure hFailure
  move := by
    intro moment hMoment hMove
    obtain ⟨hKind, hOutcomes⟩ := moments_outcomes hMoment
    rcases hOutcomes.follow_url with hUrl | ⟨hUrl, _, outcome, hLoaded, hSuccess, hAlternate⟩
    · exact absurd hUrl (bne_iff_ne.mp hMove)
    · rw [hKind] at hUrl
      exact ⟨outcome, hLoaded, hSuccess, hAlternate, hUrl⟩
  moves := (moves_le_one source events).1

/-- A source is steady from its making on, whatever is done with it and in whatever order. -/
theorem ofUrl_isSteady (url : String) (name : Option String) (kind : Kind) (events : List Event) :
    (ofUrl url name kind).IsSteady events := by
  have hFresh : (ofUrl url name kind).packages = none := by rw [ofUrl]
  have hUrl : (ofUrl url name kind).url = normalUrl kind url := by rw [ofUrl]
  have hKept := normalUrl_isKept kind url
  rw [← hUrl] at hKept
  exact isSteady_of_fresh hFresh hKept events

end SdkFeed.Source
