import SdkFeed.Console.Markup
import SdkFeed.Report

/-!
Monitors: ways to show the reports of a piece of work.
-/

namespace SdkFeed

/-- How far a piece of work has come. -/
structure Progress where
  steps : Int
  done : Int
deriving DecidableEq, Repr

namespace Progress

/-- Nothing is known yet. -/
def unknown : Progress :=
  ⟨0, 0⟩

/-- The progress after a report. To declare the number of steps begins anew. -/
def after (progress : Progress) : Report → Progress
  | .steps count => ⟨count, 0⟩
  | .advance count => { progress with done := progress.done + count }
  | _ => progress

/-- The steps done of the steps to do. -/
def render (progress : Progress) : String :=
  toString progress.done ++ "/" ++ toString progress.steps

end Progress

/-- Show each report together with the progress after it. -/
def showReports {α : Type} (line? : Progress → Report → Option α) (progress : Progress) :
    List Report → List α
  | [] => []
  | report :: rest =>
    let progress := progress.after report
    (line? progress report).toList ++ showReports line? progress rest

/-- The messages that a console shows, and their styles. Only results are shown to a user who has
not asked for more. -/
def consoleMessages (verbose : Bool) : List Report → List (Console.Style × String) :=
  showReports (fun progress report =>
    match report with
    | .result message => some (.yellow, message)
    | .description message => if verbose then some (.dim, message) else none
    | .advance _ => if verbose then some (.dim, "  step " ++ progress.render) else none
    | .steps _ => none) .unknown

/-- What is printed for some reports. -/
def consoleText (verbose : Bool) (reports : List Report) : String :=
  String.join ((consoleMessages verbose reports).map fun (style, message) =>
    Console.say style message)

/-- The levels of the log. -/
inductive LogLevel where
  | debug
  | info
deriving DecidableEq, Repr

/-- The name of a level. -/
def LogLevel.name : LogLevel → String
  | debug => "DEBUG"
  | info => "INFO"

/-- The entries that a log gets. A name that is not empty stands before each of them. -/
def logEntries (name : String) : List Report → List (LogLevel × String) :=
  let label := if name.isEmpty then "" else "[" ++ name ++ "] "
  showReports (fun progress report =>
    match report with
    | .result message => some (.info, label ++ message)
    | .description message => some (.debug, label ++ message)
    | .advance _ => some (.debug, label ++ "progress " ++ progress.render)
    | .steps _ => none) .unknown

end SdkFeed
