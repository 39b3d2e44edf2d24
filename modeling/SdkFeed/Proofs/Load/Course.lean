import SdkFeed.Load

/-! The course of a load between two of its states. `Leads` speaks of real steps only: it holds for
every number of steps that may be left afterwards, so stretches of a load can be put together, and
the limit on the steps of a whole load matters only once, at the end. -/
namespace SdkFeed.Load

variable {σ : Type} {services : Services σ} {request : Request}

/-- A run that has entered a further state. -/
def Run.enter (run : Run σ) (state : State) : Run σ :=
  { run with trace := run.trace ++ [state] }

theorem drive_final {state : State} (hFinal : state.isFinal = true) (steps : Nat) (run : Run σ) :
    drive services request steps state run = (run, .ok state) := by
  cases steps with
  | zero => rfl
  | succ steps => simp [drive, hFinal]

/-- What every step keeps, a load keeps to its end. -/
theorem drive_invariant (holds : State → Run σ → Prop) {steps : Nat} {state last : State}
    {before after : Run σ}
    (hStep : ∀ (state next : State) (before after : Run σ), state.isFinal = false →
      step services request before state = (after, .ok next) → holds state before →
      holds next (after.enter next))
    (hBefore : holds state before)
    (hDrive : drive services request steps state before = (after, .ok last)) : holds last after := by
  induction steps generalizing state before with
  | zero =>
      cases hDrive
      exact hBefore
  | succ steps ih =>
      rw [drive] at hDrive
      split at hDrive
      · cases hDrive
        exact hBefore
      · rename_i hClosed
        have hOpen : state.isFinal = false := by simpa using hClosed
        split at hDrive
        · cases hDrive
        · rename_i middle next hNext
          exact ih (hStep _ _ _ _ hOpen hNext hBefore) hDrive

/-- A load takes a number of steps from one state to another, whatever is left to do. -/
def Leads (services : Services σ) (request : Request) (used : Nat)
    (before : State × Run σ) (after : State × Run σ) : Prop :=
  ∀ left, drive services request (used + left) before.1 before.2 =
    drive services request left after.1 after.2

/-- A load takes a number of steps from a state on and then crashes. -/
def Crashes (services : Services σ) (request : Request) (used : Nat)
    (before : State × Run σ) (crash : Crash) : Prop :=
  ∃ run, ∀ left, drive services request (used + left) before.1 before.2 = (run, .error crash)

theorem Leads.trans {first second : Nat} {before middle after : State × Run σ}
    (hFirst : Leads services request first before middle)
    (hSecond : Leads services request second middle after) :
    Leads services request (first + second) before after := by
  intro left
  rw [Nat.add_assoc, hFirst, hSecond]

theorem Leads.crashes {first second : Nat} {before middle : State × Run σ} {crash : Crash}
    (hFirst : Leads services request first before middle)
    (hSecond : Crashes services request second middle crash) :
    Crashes services request (first + second) before crash := by
  obtain ⟨run, hRun⟩ := hSecond
  refine ⟨run, fun left => ?_⟩
  rw [Nat.add_assoc, hFirst, hRun]

/-- One step of a load that is not over. -/
theorem Leads.of_step {state next : State} {run after : Run σ} (hOpen : state.isFinal = false)
    (hStep : step services request run state = (after, .ok next)) :
    Leads services request 1 (state, run) (next, after.enter next) := by
  intro left
  rw [Nat.add_comm, drive, hOpen, hStep]
  rfl

/-- One more step behind a stretch of a load. -/
theorem Leads.andThen {used : Nat} {before : State × Run σ} {state next : State} {run after : Run σ}
    (hLeads : Leads services request used before (state, run)) (hOpen : state.isFinal = false)
    (hStep : step services request run state = (after, .ok next)) :
    Leads services request (used + 1) before (next, after.enter next) :=
  hLeads.trans (.of_step hOpen hStep)

theorem Crashes.of_step {state : State} {run after : Run σ} {crash : Crash}
    (hOpen : state.isFinal = false)
    (hStep : step services request run state = (after, .error crash)) :
    Crashes services request 1 (state, run) crash := by
  refine ⟨after, fun left => ?_⟩
  rw [Nat.add_comm, drive, hOpen, hStep]
  rfl

/-- A stretch of a load that ends in a final state is all that the load does, if there are steps
enough for it. -/
theorem Leads.drive_eq {used steps : Nat} {before : State × Run σ} {state : State} {run : Run σ}
    (hLeads : Leads services request used before (state, run)) (hFinal : state.isFinal = true)
    (hSteps : used ≤ steps) :
    drive services request steps before.1 before.2 = (run, .ok state) := by
  obtain ⟨left, rfl⟩ := Nat.exists_eq_add_of_le hSteps
  rw [hLeads, drive_final hFinal]

theorem Crashes.drive_eq {used steps : Nat} {before : State × Run σ} {crash : Crash}
    (hCrashes : Crashes services request used before crash) (hSteps : used ≤ steps) :
    (drive services request steps before.1 before.2).2 = .error crash := by
  obtain ⟨run, hRun⟩ := hCrashes
  obtain ⟨left, rfl⟩ := Nat.exists_eq_add_of_le hSteps
  rw [hRun]

end SdkFeed.Load
