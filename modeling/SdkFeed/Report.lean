/-!
Progress reports. Work that takes a while tells what it does as a list of reports; the monitors
are ways to read such a list.
-/

namespace SdkFeed

/-- One report of a piece of work. -/
inductive Report where
  /-- The work will advance through this many steps. -/
  | steps (count : Int)
  /-- What is going on now. -/
  | description (message : String)
  /-- Some steps are done. -/
  | advance (count : Int)
  /-- Something the user should know. -/
  | result (message : String)
deriving DecidableEq, Repr

/-- Everything that a list of reports says. -/
structure Record where
  steps : Int
  progress : Int
  descriptions : List String
  results : List String
deriving DecidableEq, Repr

namespace Record

/-- The record of no report. -/
def empty : Record :=
  ⟨0, 0, [], []⟩

/-- Take one more report. -/
def add (record : Record) : Report → Record
  | .steps count => { record with steps := count }
  | .description message => { record with descriptions := record.descriptions ++ [message] }
  | .advance count => { record with progress := record.progress + count }
  | .result message => { record with results := record.results ++ [message] }

/-- The record of a list of reports. -/
def ofReports (reports : List Report) : Record :=
  reports.foldl add empty

end Record

end SdkFeed
