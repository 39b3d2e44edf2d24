import SdkFeed.Catalog.Basic
import SdkFeed.Load

/-!
Loading every source of a catalog. Each source takes the outcome of its own load. A load can change
the address of a source to the one of its index file; sources of the user whose address is then the
one of an earlier source are dropped.
-/

namespace SdkFeed.Catalog

variable {σ : Type}

/-- A source that was loaded, as it is afterwards. -/
structure Visit where
  source : Source
  result : Except Load.Crash Load.Outcome
  reports : List Report
  warnings : List String
  /-- The addresses fetched. -/
  calls : List String

/-- Load a source and keep the outcome with it. -/
def visit (services : Load.Services σ) (forceOpen : Bool) (source : Source) (state : σ) :
    Visit × σ :=
  let (run, result) := Load.load services ⟨source, .tools⟩ forceOpen state
  let source := match result with
    | .ok outcome => source.apply outcome
    | .error _ => source
  (⟨source, result, run.reports, run.warnings, run.calls⟩, run.services)

/-- Load sources one after another. -/
def visitAll (services : Load.Services σ) (forceOpen : Bool) : List Source → σ → List Visit × σ
  | [], state => ([], state)
  | source :: rest, state =>
    let (first, state) := visit services forceOpen source state
    let (others, state) := visitAll services forceOpen rest state
    (first :: others, state)

/-- The sources whose address none of the given addresses and no earlier source has. -/
def distinct (seen : List String) : List Source → List Source
  | [] => []
  | source :: rest =>
    if seen.contains source.url then distinct seen rest
    else source :: distinct (source.url :: seen) rest

/-- The sources whose address one of the given addresses or an earlier source has. -/
def duplicates (seen : List String) : List Source → List Source
  | [] => []
  | source :: rest =>
    if seen.contains source.url then source :: duplicates seen rest
    else duplicates (source.url :: seen) rest

/-- The addresses of the built-in sources. -/
def builtinUrls (catalog : Catalog) : List String :=
  catalog.builtin.map (·.url)

/-- A catalog without the sources of the user whose address an earlier source has. -/
def dropDuplicates (catalog : Catalog) : Catalog :=
  { catalog with user := distinct catalog.builtinUrls catalog.user }

/-- What is said about the sources that are dropped. -/
def duplicateWarnings (catalog : Catalog) : List String :=
  (duplicates catalog.builtinUrls catalog.user).map ("Dropping duplicate source " ++ ·.url)

/-- The sources of a catalog replaced one by one. -/
def withSources (catalog : Catalog) (sources : List Source) : Catalog :=
  { catalog with
    builtin := sources.take catalog.builtin.length
    user := sources.drop catalog.builtin.length }

/-- What loading every source gives: the catalog afterwards, the loads in the order of the sources,
and what was warned of. -/
structure Refresh (σ : Type) where
  catalog : Catalog
  visits : List Visit
  warnings : List String
  services : σ

/-- The first crash among the loads. -/
def crash? (visits : List Visit) : Option Load.Crash :=
  visits.findSome? fun visit =>
    match visit.result with
    | .error crash => some crash
    | .ok _ => none

/-- What loading every source gives, once it is known what came of each load. After a crash no source
is dropped. -/
def gather (catalog : Catalog) (visits : List Visit) (state : σ) : Refresh σ :=
  let loaded := catalog.withSources (visits.map (·.source))
  let warnings := visits.flatMap (·.warnings)
  if (crash? visits).isSome then ⟨loaded, visits, warnings, state⟩
  else ⟨loaded.dropDuplicates, visits, warnings ++ loaded.duplicateWarnings, state⟩

/-- Load every source of a catalog, one after the other. -/
def refresh (services : Load.Services σ) (forceOpen : Bool) (catalog : Catalog) (state : σ) :
    Refresh σ :=
  let (visits, state) := visitAll services forceOpen catalog.sources state
  gather catalog visits state

end SdkFeed.Catalog
