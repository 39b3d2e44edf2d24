import SdkFeed.Catalog.Refresh

/-!
Loading the sources of a catalog with several workers. A worker takes the first source that waits
and loads it step by step; between two steps of a load any others can take steps of theirs. The
loads share their services and nothing else. Main definition: `Catalog.loadAll?`, for a schedule
that says whose turn it is.
-/

namespace SdkFeed

namespace Load

variable {σ : Type}

/-- Services that loads share. That there is nothing to check documents with is told only once; the
state says whether it was. -/
def Services.shared (fetch : String → Except Fetch.Cause (List UInt8))
    (validator : Schema.Validator) : Services Bool where
  fetch isTold url := (fetch url, isTold)
  validate isTold edition url bytes :=
    let warnings := validator.warnings edition
    ((validator.validate edition url bytes, if isTold then [] else warnings),
      isTold || !warnings.isEmpty)

/-- What a load comes to that took its last step. -/
def settle (request : Request) (run : Run σ) :
    Except Crash State → Run σ × Except Crash Outcome
  | .error crash => (run, .error crash)
  | .ok last =>
    let (run, last) := giveUp request run last
    let (run, outcome) := finish request run last
    (run, .ok outcome)

end Load

namespace Catalog

variable {σ : Type}

/-- What is kept of the load of a source. -/
def Visit.ofLoad (source : Source) (run : Load.Run σ) (result : Except Load.Crash Load.Outcome) :
    Visit where
  source := match result with
    | .ok outcome => source.apply outcome
    | .error _ => source
  result
  reports := run.reports
  warnings := run.warnings
  calls := run.calls

/-- How far the load of a source has come. -/
inductive Job (σ : Type) where
  | waiting
  /-- A worker may take so many more steps. -/
  | running (steps : Nat) (state : Load.State) (run : Load.Run σ)
  | ended (visit : Visit)

/-- A source to be loaded. -/
structure Task (σ : Type) where
  source : Source
  job : Job σ

namespace Task

/-- Whether no worker has taken the task yet. -/
def isWaiting (task : Task σ) : Bool :=
  match task.job with
  | .waiting => true
  | _ => false

/-- Whether a worker is at the task. -/
def isRunning (task : Task σ) : Bool :=
  match task.job with
  | .running .. => true
  | _ => false

/-- What came of the load, if it is over. -/
def visit? (task : Task σ) : Option Visit :=
  match task.job with
  | .ended visit => some visit
  | _ => none

/-- What is asked for. -/
def request (task : Task σ) : Load.Request :=
  ⟨task.source, .tools⟩

/-- The load is over. -/
def conclude (task : Task σ) (run : Load.Run σ) (ending : Except Load.Crash Load.State) :
    Task σ × σ :=
  let (run, result) := Load.settle task.request run ending
  ({ task with job := .ended (.ofLoad task.source run result) }, run.services)

/-- Take a step of the load, or tell what came of it when there is none left. -/
def advance (services : Load.Services σ) (task : Task σ) :
    Nat → Load.State → Load.Run σ → Task σ × σ
  | 0, state, run => task.conclude run (.ok state)
  | steps + 1, state, run =>
    if state.isFinal then task.conclude run (.ok state)
    else match Load.step services task.request run state with
      | (run, .error crash) => task.conclude run (.error crash)
      | (run, .ok next) =>
        ({ task with job := .running steps next { run with trace := run.trace ++ [next] } },
          run.services)

/-- What a worker does when it is its turn: it begins with the task, or goes on with the services as
the other loads have left them. -/
def turn? (services : Load.Services σ) (forceOpen : Bool) (shared : σ) (task : Task σ) :
    Option (Task σ × σ) :=
  match task.job with
  | .waiting =>
    some ({ task with
      job := .running Load.stepLimit .start (.start task.request forceOpen shared) }, shared)
  | .running steps state run =>
    some (task.advance services steps state { run with services := shared })
  | .ended _ => none

end Task

/-- All sources of a catalog with their loads, and the state of the services that the loads share. -/
structure Pool (σ : Type) where
  tasks : List (Task σ)
  services : σ

namespace Pool

/-- No source is taken yet. -/
def start (sources : List Source) (services : σ) : Pool σ where
  tasks := sources.map (⟨·, .waiting⟩)
  services

/-- What came of the loads that are over. -/
def visits (pool : Pool σ) : List Visit :=
  pool.tasks.filterMap Task.visit?

/-- Whether all loads are over. -/
def isOver (pool : Pool σ) : Bool :=
  pool.tasks.all (·.visit?.isSome)

/-- Whether a worker can begin with the task at a place: it is idle, and no task before waits. -/
def canBegin (workers : Nat) (pool : Pool σ) (index : Nat) : Bool :=
  pool.tasks.countP Task.isRunning < workers && !(pool.tasks.take index).any Task.isWaiting

/-- The task at a place has its turn. -/
def turn? (services : Load.Services σ) (forceOpen : Bool) (workers : Nat) (pool : Pool σ)
    (index : Nat) : Option (Pool σ) := do
  let task ← pool.tasks[index]?
  guard (!task.isWaiting || pool.canBegin workers index)
  let (task, state) ← task.turn? services forceOpen pool.services
  return ⟨pool.tasks.set index task, state⟩

/-- Tasks have their turns as a schedule says. -/
def follow? (services : Load.Services σ) (forceOpen : Bool) (workers : Nat) (pool : Pool σ) :
    List Nat → Option (Pool σ)
  | [] => some pool
  | index :: rest => do
    (← pool.turn? services forceOpen workers index).follow? services forceOpen workers rest

end Pool

/-- How many workers there are for so many sources: always one, and no more than there are sources. -/
def workerCount (limit : Int) (sources : Nat) : Nat :=
  (max 1 (min limit sources)).toNat

/-- Load every source of a catalog with several workers. Nothing comes of a schedule that cannot be
kept, or that ends before all loads are over. -/
def loadAll? (services : Load.Services σ) (forceOpen : Bool) (limit : Int) (catalog : Catalog)
    (state : σ) (schedule : List Nat) : Option (Refresh σ) := do
  let workers := workerCount limit catalog.sources.length
  let pool ← (Pool.start catalog.sources state).follow? services forceOpen workers schedule
  guard pool.isOver
  return gather catalog pool.visits pool.services

end Catalog

end SdkFeed
