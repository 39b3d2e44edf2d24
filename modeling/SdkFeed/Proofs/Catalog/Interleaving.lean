import Mathlib.Algebra.GroupWithZero.Nat
import SdkFeed.Proofs.Catalog.Lineage
import SdkFeed.Proofs.Load.Sharing

/-! Loads that take their turns. What would come of a load if it went on alone is the same after each of
its turns, and up to warnings it is the same after the turns of the others. So each source gets the
outcome that it gets by itself, whatever schedule the workers keep to. -/
namespace SdkFeed.Catalog

variable {σ : Type} {services : Load.Services σ} {forceOpen : Bool}

/-- A visit without what was warned of. -/
def Visit.quiet (visit : Visit) : Visit :=
  { visit with warnings := [] }

theorem Visit.quiet_ofLoad (source : Source) {run other : Load.Run σ}
    {result known : Except Load.Crash Load.Outcome}
    (hQuiet : Load.quietly (other, result) = Load.quietly (run, known)) :
    (ofLoad source other result).quiet = (ofLoad source run known).quiet := by
  obtain ⟨state, warnings, hSame⟩ := Load.exists_of_quietly hQuiet
  cases hSame
  rfl

theorem visit_eq_ofLoad (services : Load.Services σ) (forceOpen : Bool) (source : Source) (state : σ) :
    visit services forceOpen source state =
      (.ofLoad source (Load.load services ⟨source, .tools⟩ forceOpen state).1
        (Load.load services ⟨source, .tools⟩ forceOpen state).2,
        (Load.load services ⟨source, .tools⟩ forceOpen state).1.services) :=
  rfl

/-- What comes of loading a source does not depend on the state of the services. -/
theorem visit_quiet (hPure : services.IsPure) (source : Source) (state other : σ) :
    (visit services forceOpen source other).1.quiet =
      (visit services forceOpen source state).1.quiet := by
  rw [visit_eq_ofLoad, visit_eq_ofLoad, Load.load_eq_complete, Load.load_eq_complete]
  exact Visit.quiet_ofLoad source (Load.quietly_complete _ hPure (by rfl) _ _)

theorem visitAll_quiet (hPure : services.IsPure) (sources : List Source) (state other : σ) :
    (visitAll services forceOpen sources other).1.map Visit.quiet =
      sources.map fun source => (visit services forceOpen source state).1.quiet := by
  induction sources generalizing other with
  | nil => rfl
  | cons source rest ih => exact congrArg₂ List.cons (visit_quiet hPure source state other) (ih _)

namespace Task

variable {task after : Task σ} {shared state : σ}

/-- What comes of a task, and of the services, if no other task has a turn from now on. -/
def ending (services : Load.Services σ) (forceOpen : Bool) (shared : σ) (task : Task σ) :
    Visit × σ :=
  match task.job with
  | .waiting => visit services forceOpen task.source shared
  | .running steps state run =>
    let (run, result) :=
      Load.complete services task.request steps state { run with services := shared }
    (.ofLoad task.source run result, run.services)
  | .ended visit => (visit, shared)

/-- How many turns a task can have at most. -/
def rank (task : Task σ) : Nat :=
  match task.job with
  | .waiting => Load.stepLimit + 2
  | .running steps _ _ => steps + 1
  | .ended _ => 0

/-- With a turn at a load a worker takes one of its steps, or concludes it. -/
theorem advance_cases (services : Load.Services σ) (task : Task σ) (steps : Nat)
    (state : Load.State) (run : Load.Run σ) :
    (∃ last ending, Load.drive services task.request steps state run = (last, ending) ∧
      task.advance services steps state run = task.conclude last ending) ∨
    ∃ fewer next later, steps = fewer + 1 ∧
      Load.drive services task.request steps state run =
        Load.drive services task.request fewer next later ∧
      task.advance services steps state run =
        ({ task with job := .running fewer next later }, later.services) := by
  cases steps with
  | zero => exact .inl ⟨run, .ok state, rfl, rfl⟩
  | succ fewer =>
      rw [Load.drive, advance]
      split
      · exact .inl ⟨run, .ok state, rfl, rfl⟩
      · rcases Load.step services task.request run state with ⟨later, result⟩
        cases result with
        | error crash => exact .inl ⟨later, .error crash, rfl, rfl⟩
        | ok next => exact .inr ⟨fewer, next, _, rfl, rfl, rfl⟩

/-- A turn changes nothing about what comes of the task, and brings it nearer to its end. -/
theorem turn?_eq_some (hTurn : task.turn? services forceOpen shared = some (after, state)) :
    after.ending services forceOpen state = task.ending services forceOpen shared ∧
      after.rank < task.rank := by
  obtain ⟨source, job⟩ := task
  cases job with
  | waiting =>
      obtain ⟨rfl, rfl⟩ := Prod.mk.inj (Option.some.inj hTurn)
      refine ⟨?_, Nat.lt_succ_self _⟩
      simp only [ending, visit_eq_ofLoad, Load.load_eq_complete]
      rfl
  | running steps last run =>
      have hTurn := Option.some.inj hTurn
      rcases advance_cases services ⟨source, .running steps last run⟩ steps last
        { run with services := shared } with
        ⟨final, result, hDrive, hAdvance⟩ | ⟨fewer, next, later, rfl, hDrive, hAdvance⟩
      · obtain ⟨rfl, rfl⟩ := Prod.mk.inj (hAdvance.symm.trans hTurn)
        refine ⟨?_, Nat.succ_pos _⟩
        simp only [ending, Load.complete, hDrive]
        rfl
      · obtain ⟨rfl, rfl⟩ := Prod.mk.inj (hAdvance.symm.trans hTurn)
        refine ⟨?_, Nat.lt_succ_self _⟩
        simp only [ending, Load.complete, hDrive]
        rfl
  | ended visit => cases hTurn

/-- And what the others do meanwhile changes only warnings. -/
theorem ending_quiet (hPure : services.IsPure) (task : Task σ) (shared other : σ) :
    (task.ending services forceOpen other).1.quiet =
      (task.ending services forceOpen shared).1.quiet := by
  obtain ⟨source, job⟩ := task
  cases job with
  | waiting => exact visit_quiet hPure source shared other
  | running steps last run =>
      exact Visit.quiet_ofLoad source (Load.quietly_complete _ hPure (by rfl) _ _)
  | ended visit => rfl

end Task

namespace Pool

variable {workers index : Nat} {pool next : Pool σ}

/-- What will come of the loads, up to warnings. -/
def outlook (services : Load.Services σ) (forceOpen : Bool) (pool : Pool σ) : List Visit :=
  pool.tasks.map fun task => (task.ending services forceOpen pool.services).1.quiet

/-- How many turns there can be at most. -/
def rank (pool : Pool σ) : Nat :=
  (pool.tasks.map Task.rank).sum

/-- In a turn one task moves on, and no other task is touched. -/
theorem turn?_eq_some (hTurn : pool.turn? services forceOpen workers index = some next) :
    ∃ front task back after, pool.tasks = front ++ task :: back ∧
      next.tasks = front ++ after :: back ∧
      task.turn? services forceOpen pool.services = some (after, next.services) := by
  simp only [turn?, Option.bind_eq_bind, Option.bind_eq_some_iff] at hTurn
  obtain ⟨task, hTask, _, _, ⟨after, state⟩, hMoves, hNext⟩ := hTurn
  cases hNext
  obtain ⟨hIndex, hHere⟩ := List.getElem?_eq_some_iff.mp hTask
  refine ⟨pool.tasks.take index, task, pool.tasks.drop (index + 1), after, ?_, ?_, hMoves⟩
  · rw [← hHere, List.getElem_cons_drop, List.take_append_drop]
  · exact List.set_eq_take_append_cons_drop.trans (if_pos hIndex)

theorem turn?_outlook (hPure : services.IsPure)
    (hTurn : pool.turn? services forceOpen workers index = some next) :
    next.outlook services forceOpen = pool.outlook services forceOpen := by
  obtain ⟨front, task, back, after, hTasks, hNext, hMoves⟩ := turn?_eq_some hTurn
  have hOthers : ∀ other : Task σ, (other.ending services forceOpen next.services).1.quiet =
      (other.ending services forceOpen pool.services).1.quiet :=
    fun other => other.ending_quiet hPure pool.services next.services
  rw [outlook, outlook, hTasks, hNext, List.map_append, List.map_append, List.map_cons,
    List.map_cons, (Task.turn?_eq_some hMoves).1]
  simp only [hOthers]

theorem turn?_rank (hTurn : pool.turn? services forceOpen workers index = some next) :
    next.rank < pool.rank := by
  obtain ⟨front, task, back, after, hTasks, hNext, hMoves⟩ := turn?_eq_some hTurn
  have hRank := (Task.turn?_eq_some hMoves).2
  simp only [rank, hTasks, hNext, List.map_append, List.map_cons, List.sum_append, List.sum_cons]
  omega

/-- However the tasks take their turns, the outlook stays, and there are not many turns. -/
theorem follow?_eq_some (hPure : services.IsPure) {schedule : List Nat}
    (hFollow : pool.follow? services forceOpen workers schedule = some next) :
    next.outlook services forceOpen = pool.outlook services forceOpen ∧
      schedule.length + next.rank ≤ pool.rank := by
  induction schedule generalizing pool with
  | nil =>
      cases hFollow
      exact ⟨rfl, (Nat.zero_add _).le⟩
  | cons index rest ih =>
      simp only [follow?, Option.bind_eq_bind, Option.bind_eq_some_iff] at hFollow
      obtain ⟨middle, hTurn, hRest⟩ := hFollow
      obtain ⟨hOutlook, hLength⟩ := ih hRest
      have hRank := turn?_rank hTurn
      refine ⟨hOutlook.trans (turn?_outlook hPure hTurn), ?_⟩
      rw [List.length_cons]
      omega

theorem outlook_start (hPure : services.IsPure) (sources : List Source) (state : σ) :
    (start sources state).outlook services forceOpen =
      (visitAll services forceOpen sources state).1.map Visit.quiet := by
  rw [visitAll_quiet hPure sources state state, outlook, start, List.map_map]
  rfl

theorem rank_start (sources : List Source) (state : σ) :
    (start sources state).rank = sources.length * (Load.stepLimit + 2) := by
  simp [rank, start, Function.comp_def, Task.rank]

/-- Once all loads are over the outlook is what came of them. -/
theorem outlook_of_isOver (hOver : pool.isOver = true) :
    pool.outlook services forceOpen = pool.visits.map Visit.quiet := by
  have hVisits : pool.visits =
      pool.tasks.map fun task => (task.ending services forceOpen pool.services).1 := by
    refine List.filterMap_eq_map_iff_forall_eq_some.mpr fun task hTask => ?_
    have hTaskOver := List.all_eq_true.mp hOver task hTask
    obtain ⟨source, job⟩ := task
    cases job with
    | ended visit => rfl
    | waiting | running => cases hTaskOver
  rw [hVisits, outlook, List.map_map]
  rfl

/-- A task that is not over has its turn, unless it waits for a worker. -/
theorem exists_turn_at {task : Task σ} (hTask : pool.tasks[index]? = some task)
    (hOpen : task.visit? = none)
    (hFree : task.isWaiting = false ∨ pool.canBegin workers index = true) :
    ∃ next, pool.turn? services forceOpen workers index = some next := by
  have hMoves : ∃ moved, task.turn? services forceOpen pool.services = some moved := by
    obtain ⟨source, job⟩ := task
    cases job with
    | waiting => exact ⟨_, rfl⟩
    | running steps state run => exact ⟨_, rfl⟩
    | ended visit => cases hOpen
  obtain ⟨moved, hMoved⟩ := hMoves
  refine ⟨⟨pool.tasks.set index moved.1, moved.2⟩, ?_⟩
  simp [turn?, hTask, hFree, hMoved]

/-- As long as a load is not over there is one that can have a turn. -/
theorem exists_turn (hWorkers : 0 < workers) (hOpen : pool.isOver = false) :
    ∃ index next, pool.turn? services forceOpen workers index = some next := by
  by_cases hBusy : ∃ task ∈ pool.tasks, task.isRunning = true
  · obtain ⟨task, hTask, hRunning⟩ := hBusy
    obtain ⟨index, hHere⟩ := List.mem_iff_getElem?.mp hTask
    obtain ⟨source, job⟩ := task
    cases job with
    | running steps state run => exact ⟨index, exists_turn_at hHere rfl (.inl rfl)⟩
    | waiting | ended => cases hRunning
  -- All workers are idle, so one of them can begin with the first task that waits.
  · have hIdle : pool.tasks.countP Task.isRunning = 0 :=
      List.countP_eq_zero.mpr fun task hTask hRunning => hBusy ⟨task, hTask, hRunning⟩
    obtain ⟨task, hTask, hTaskOpen⟩ := List.all_eq_false.mp hOpen
    have hWaits : task.isWaiting = true := by
      have hStill : ¬task.isRunning = true := fun hRunning => hBusy ⟨task, hTask, hRunning⟩
      obtain ⟨source, job⟩ := task
      cases job with
      | waiting => rfl
      | running => exact absurd rfl hStill
      | ended => exact absurd rfl hTaskOpen
    obtain ⟨first, hFirst⟩ :=
      Option.isSome_iff_exists.mp (List.find?_isSome.mpr ⟨task, hTask, hWaits⟩)
    obtain ⟨hFirstWaits, front, back, hTasks, hFront⟩ := List.find?_eq_some_iff_append.mp hFirst
    have hHere : pool.tasks[front.length]? = some first := by
      simp [hTasks]
    have hFirstOpen : first.visit? = none := by
      obtain ⟨source, job⟩ := first
      cases job with
      | waiting => rfl
      | running | ended => cases hFirstWaits
    have hBegins : pool.canBegin workers front.length = true := by
      have hNone : front.any Task.isWaiting = false :=
        List.any_eq_false.mpr fun other hOther => by simpa using hFront other hOther
      rw [canBegin, hIdle, hTasks, List.take_left, hNone, decide_eq_true hWorkers]
      rfl
    exact ⟨front.length, exists_turn_at hHere hFirstOpen (.inr hBegins)⟩

end Pool

/-- The sources whose address is neither among the given ones nor the one of an earlier source. -/
def firstHolders (taken : List String) (sources : List Source) : List Source :=
  (sources.zipIdx.filter fun (source, index) =>
    !(taken ++ (sources.take index).map (·.url)).contains source.url).map Prod.fst

section Distinct

variable {seen others : List String}

theorem distinct_congr (hSame : ∀ url, url ∈ seen ↔ url ∈ others) (sources : List Source) :
    distinct seen sources = distinct others sources := by
  induction sources generalizing seen others with
  | nil => rfl
  | cons source rest ih =>
      have hHere : seen.contains source.url = others.contains source.url := by
        simp only [List.contains_eq_mem, hSame]
      have hCons : ∀ url, url ∈ source.url :: seen ↔ url ∈ source.url :: others := by
        simp only [List.mem_cons, hSame, implies_true]
      rw [distinct, distinct, hHere, ih hSame, ih hCons]

/-- Whether it stays or not, the address of a source is taken for all later ones. -/
theorem distinct_cons (seen : List String) (source : Source) (rest : List Source) :
    distinct seen (source :: rest) =
      (if seen.contains source.url then [] else [source]) ++ distinct (source.url :: seen) rest := by
  rw [distinct]
  split
  · rename_i hSeen
    have hIn : source.url ∈ seen := by simpa using hSeen
    rw [List.nil_append]
    refine distinct_congr (fun url => ?_) rest
    rw [List.mem_cons, or_iff_right_of_imp]
    rintro rfl
    exact hIn
  · rfl

theorem distinct_eq_firstHolders (seen : List String) (sources : List Source) :
    distinct seen sources = firstHolders seen sources := by
  unfold firstHolders
  induction sources generalizing seen with
  | nil => rfl
  | cons source rest ih =>
      have hLater : ∀ pair : Source × Nat,
          (!(seen ++ ((source :: rest).take (pair.2 + 1)).map (·.url)).contains pair.1.url) =
            !(source.url :: seen ++ (rest.take pair.2).map (·.url)).contains pair.1.url := by
        intro pair
        rw [List.take_succ_cons, List.map_cons, List.perm_middle.contains_eq, List.cons_append]
      rw [distinct_cons, ih, List.zipIdx_cons, List.zipIdx_succ, List.filter_cons, List.filter_map]
      simp only [Function.comp_def, hLater, List.take_zero, List.map_nil, List.append_nil]
      cases seen.contains source.url <;> simp

/-- No address is lost. -/
theorem mem_distinct_urls {source : Source} (seen : List String) {sources : List Source}
    (hSource : source ∈ sources) :
    source.url ∈ seen ++ (distinct seen sources).map (·.url) := by
  induction sources generalizing seen with
  | nil => cases hSource
  | cons first rest ih =>
      rw [distinct]
      rcases List.mem_cons.mp hSource with rfl | hLater
      · split
        · rename_i hSeen
          exact List.mem_append_left _ (by simpa using hSeen)
        · exact List.mem_append_right _ List.mem_cons_self
      · split
        · exact ih seen hLater
        · rw [List.map_cons, List.perm_middle.mem_iff]
          exact ih (first.url :: seen) hLater

theorem held_dropDuplicates {catalog : Catalog} {source : Source}
    (hSource : source ∈ catalog.sources) :
    source.url ∈ catalog.dropDuplicates.sources.map (·.url) := by
  rw [sources, dropDuplicates, List.map_append]
  rcases List.mem_append.mp hSource with hBuiltin | hUser
  · exact List.mem_append_left _ (List.mem_map_of_mem hBuiltin)
  · exact mem_distinct_urls _ hUser

end Distinct

/-- What a catalog is when each of its sources has been loaded, and got its own outcome. -/
structure IsRefreshed (solo : Source → Except Load.Crash Load.Outcome) (before : Catalog)
    (visits : List Visit) (after : Catalog) : Prop where
  outcomes : List.Forall₂ (fun source visit => ∃ outcome, solo source = .ok outcome ∧
    visit.result = .ok outcome ∧ visit.source = source.apply outcome) before.sources visits
  sources : ∃ builtin user, visits.map (·.source) = builtin ++ user ∧
    builtin.length = before.builtin.length ∧
    after = { before with builtin, user := firstHolders (builtin.map (·.url)) user }
  builtin : (∀ source ∈ before.builtin, IsBuiltin source) → ∀ source ∈ after.builtin, IsBuiltin source
  held : ∀ visit ∈ visits, visit.source.url ∈ after.sources.map (·.url)

section Gather

variable {catalog : Catalog} {visits others : List Visit} {state after later : σ}

theorem crash?_quiet (visits : List Visit) : crash? (visits.map Visit.quiet) = crash? visits := by
  rw [crash?, List.findSome?_map]
  rfl

/-- The catalog does not depend on what was warned of. -/
theorem gather_catalog_congr (hVisits : others.map Visit.quiet = visits.map Visit.quiet)
    (hReturns : crash? visits = none) :
    (gather catalog others later).catalog = (gather catalog visits after).catalog := by
  have hSources : others.map (·.source) = visits.map (·.source) := by
    have hQuiet := congrArg (List.map Visit.source) hVisits
    rw [List.map_map, List.map_map] at hQuiet
    exact hQuiet
  have hOthers : crash? others = none := by
    rw [← crash?_quiet, hVisits, crash?_quiet, hReturns]
  rw [gather_catalog catalog hReturns, gather_catalog catalog hOthers, hSources]

theorem exists_outcome (hReturns : crash? visits = none) {visit : Visit} (hVisit : visit ∈ visits) :
    ∃ outcome, visit.result = .ok outcome := by
  have hNone := List.findSome?_eq_none_iff.mp hReturns visit hVisit
  cases hResult : visit.result with
  | ok outcome => exact ⟨outcome, rfl⟩
  | error crash => simp [hResult] at hNone

section Solo

variable (hVisits : visits.map Visit.quiet =
    catalog.sources.map fun source => (visit services forceOpen source state).1.quiet)
  (hReturns : crash? visits = none)

include hVisits

theorem solo_forall₂ : List.Forall₂
    (fun source loaded => loaded.quiet = (visit services forceOpen source state).1.quiet)
    catalog.sources visits := by
  have hSame : List.Forall₂ (· = ·) (visits.map Visit.quiet)
      (catalog.sources.map fun source => (visit services forceOpen source state).1.quiet) := by
    rw [hVisits, List.forall₂_eq_eq_eq]
  rw [List.forall₂_map_left_iff, List.forall₂_map_right_iff] at hSame
  exact hSame.flip

include hReturns

theorem solo_outcomes : List.Forall₂ (fun source loaded => ∃ outcome,
      (Load.load services ⟨source, .tools⟩ forceOpen state).2 = .ok outcome ∧
      loaded.result = .ok outcome ∧ loaded.source = source.apply outcome)
    catalog.sources visits := by
  have hEach := (List.forall₂_and_left _ _).mpr ⟨fun _ => exists_outcome hReturns,
    (solo_forall₂ hVisits).flip⟩
  refine List.Forall₂.flip (hEach.imp ?_)
  rintro loaded source ⟨⟨outcome, hOutcome⟩, hQuiet⟩
  have hResult : loaded.result = (Load.load services ⟨source, .tools⟩ forceOpen state).2 :=
    (congrArg Visit.result hQuiet :)
  have hSource : loaded.source = (visit services forceOpen source state).1.source :=
    (congrArg Visit.source hQuiet :)
  refine ⟨outcome, hResult ▸ hOutcome, hOutcome, ?_⟩
  rw [hSource, visit_eq_ofLoad]
  simp only [Visit.ofLoad, ← hResult, hOutcome]

/-- It is enough that what comes of each source, up to warnings, is what comes of it by itself. -/
theorem gather_isRefreshed :
    IsRefreshed (fun source => (Load.load services ⟨source, .tools⟩ forceOpen state).2) catalog visits
      (gather catalog visits after).catalog := by
  have hLoaded : List.Forall₂ (IsLoaded services forceOpen) (visits.map (·.source))
      catalog.sources := by
    rw [List.forall₂_map_left_iff]
    refine (solo_forall₂ hVisits).flip.imp fun loaded source hQuiet => ?_
    have hSource : loaded.source = (visit services forceOpen source state).1.source :=
      (congrArg Visit.source hQuiet :)
    rw [hSource]
    exact visit_isLoaded services forceOpen source state
  have hTaken := List.forall₂_take_append _ _ _ hLoaded
  rw [gather_catalog catalog hReturns]
  refine ⟨solo_outcomes hVisits hReturns, ⟨_, _, (List.take_append_drop _ _).symm, hTaken.length_eq, ?_⟩,
    ?_, ?_⟩
  · rw [← distinct_eq_firstHolders]
    rfl
  · exact forall_mem_of_forall₂ IsBuiltin (fun _ _ => IsLoaded.isBuiltin) hTaken
  · intro loaded hIn
    refine held_dropDuplicates ?_
    rw [withSources, sources, List.take_append_drop]
    exact List.mem_map_of_mem hIn

end Solo

end Gather

theorem workerCount_pos (limit : Int) (sources : Nat) : 0 < workerCount limit sources := by
  rw [workerCount]
  omega

theorem loadAll?_eq_some {limit : Int} {catalog : Catalog} {state : σ} {schedule : List Nat}
    {result : Refresh σ}
    (hResult : loadAll? services forceOpen limit catalog state schedule = some result) :
    ∃ pool, (Pool.start catalog.sources state).follow? services forceOpen
        (workerCount limit catalog.sources.length) schedule = some pool ∧
      pool.isOver = true ∧ result = gather catalog pool.visits pool.services := by
  simp only [loadAll?, Option.bind_eq_bind, Option.bind_eq_some_iff] at hResult
  obtain ⟨pool, hFollow, _, hOver, hGather⟩ := hResult
  refine ⟨pool, hFollow, ?_, (Option.some.inj hGather).symm⟩
  by_contra hOpen
  simp [hOpen, guard] at hOver

/-- Whatever the workers do when, a load of all sources ends, and gives what loading one source after
another gives: each source gets the outcome that it gets by itself, the built-in sources stay, and a
source of the user is dropped just if its address is the one of an earlier source. -/
theorem interleaved_loads_agree (fetch : String → Except Fetch.Cause (List UInt8))
    (validator : Schema.Validator) (forceOpen : Bool) (limit : Int) (catalog : Catalog) (told : Bool)
    (hReturns : crash? (refresh (.shared fetch validator) forceOpen catalog told).visits = none)
    (schedule : List Nat) :
    (∀ pool, (Pool.start catalog.sources told).follow? (.shared fetch validator) forceOpen
        (workerCount limit catalog.sources.length) schedule = some pool →
      schedule.length ≤ catalog.sources.length * (Load.stepLimit + 2) ∧
      (pool.isOver = false → ∃ index next, pool.turn? (.shared fetch validator) forceOpen
        (workerCount limit catalog.sources.length) index = some next)) ∧
    ∀ result,
      loadAll? (.shared fetch validator) forceOpen limit catalog told schedule = some result →
      result.visits.map Visit.quiet =
        (refresh (.shared fetch validator) forceOpen catalog told).visits.map Visit.quiet ∧
      result.catalog = (refresh (.shared fetch validator) forceOpen catalog told).catalog ∧
      IsRefreshed
        (fun source => (Load.load (.shared fetch validator) ⟨source, .tools⟩ forceOpen told).2)
        catalog result.visits result.catalog := by
  have hPure := Load.Services.shared_isPure fetch validator
  have hRefresh : refresh (.shared fetch validator) forceOpen catalog told =
      gather catalog (visitAll (.shared fetch validator) forceOpen catalog.sources told).1
        (visitAll (.shared fetch validator) forceOpen catalog.sources told).2 := rfl
  rw [hRefresh, gather_visits] at hReturns ⊢
  constructor
  · intro pool hFollow
    have hLength := (Pool.follow?_eq_some hPure hFollow).2
    rw [Pool.rank_start] at hLength
    exact ⟨by omega, Pool.exists_turn (workerCount_pos _ _)⟩
  · intro result hResult
    obtain ⟨pool, hFollow, hOver, rfl⟩ := loadAll?_eq_some hResult
    -- At the start the outlook is what comes of one load after another, at the end what came of them.
    have hOutlook := (Pool.follow?_eq_some hPure hFollow).1
    rw [Pool.outlook_of_isOver hOver, Pool.outlook_start hPure] at hOutlook
    have hPoolReturns : crash? pool.visits = none := by
      rw [← crash?_quiet, hOutlook, crash?_quiet, hReturns]
    rw [gather_visits]
    refine ⟨hOutlook, gather_catalog_congr hOutlook hReturns, gather_isRefreshed ?_ hPoolReturns⟩
    rw [hOutlook, visitAll_quiet hPure catalog.sources told told]

/-- The index of the site, and nothing else. -/
def siteFetch (url : String) : Except Fetch.Cause (List UInt8) :=
  (Load.servingAt "http://site.test/addon.xml" addonIndex () url).1

/-- Two workers take turns; the one that is done with the built-in source begins with the last one. -/
def siteSchedule : List Nat :=
  [0, 1, 0, 1, 0, 1, 0, 1, 0, 1, 2, 1, 2, 1, 2, 1, 2, 1, 2, 1, 2, 1, 2, 2, 2, 2]

/-- The two sites that are loaded at the same time turn out to be one. -/
theorem site_loads_agree :
    crash? (refresh (.shared siteFetch .standard) false (ofSources none true siteSources)
      false).visits = none ∧
    ∃ result, loadAll? (.shared siteFetch .standard) false 2 (ofSources none true siteSources) false
        siteSchedule = some result ∧
      result.catalog.user.map (·.url) = ["http://site.test/addon.xml"] ∧
      result.catalog = (refresh (.shared siteFetch .standard) false (ofSources none true siteSources)
        false).catalog ∧
      IsRefreshed
        (fun source => (Load.load (.shared siteFetch .standard) ⟨source, .tools⟩ false false).2)
        (ofSources none true siteSources) result.visits result.catalog := by
  have hReturns : crash? (refresh (.shared siteFetch .standard) false
      (ofSources none true siteSources) false).visits = none := by
    decide +kernel
  have hLoaded : (loadAll? (.shared siteFetch .standard) false 2 (ofSources none true siteSources)
      false siteSchedule).map (·.catalog.user.map (·.url)) = some ["http://site.test/addon.xml"] := by
    decide +kernel
  obtain ⟨result, hResult, hUser⟩ := Option.map_eq_some_iff.mp hLoaded
  obtain ⟨-, hSame, hRefreshed⟩ :=
    (interleaved_loads_agree siteFetch .standard false 2 _ false hReturns siteSchedule).2 result hResult
  exact ⟨hReturns, result, hResult, hUser, hSame, hRefreshed⟩

end SdkFeed.Catalog
