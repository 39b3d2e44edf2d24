import SdkFeed.Catalog.File
import SdkFeed.Fetch.Web
import SdkFeed.Load.Run

/-!
What a command works on, and what it answers.
-/

namespace SdkFeed

/-- What surrounds the program. -/
structure Surroundings where
  files : Files
  web : Fetch.Web
  environment : Settings.Environment
  home : Path

/-- What the program cannot go on after. -/
inductive Crash where
  | settings (error : Settings.Error)
  | load (crash : Load.Crash)
  | file (error : Catalog.FileError)
  /-- A tag in a message closes what is not open. -/
  | markup
deriving Repr

/-- A crash in words. -/
def Crash.message : Crash → String
  | settings error => error.message
  | load (.encoding fault) => fault.message
  | load .breakdown => "the document refers to an entity in element content"
  | file (.catalog error) => error.message
  | file (.value _) => "a value in the sources file cannot be worked out"
  | file .undecodable => "the sources file is no text"
  | file (.files .directory) => "the sources file is a directory"
  | file (.files .tooLong) => "the path of the sources file is too long"
  | file (.files .zeroCode) => "the path of the sources file has a character of code zero"
  | file (.files .missing) => "a directory of the sources file is missing"
  | file (.files _) => "a file stands in the path of the sources file"
  | markup => "a closing tag in the path of the sources file does not match any open tag"

/-- How a command ends. -/
inductive Ending where
  | success
  | failure
  /-- The command was not given as it has to be. -/
  | usage
  | crash (crash : Crash)
deriving Repr

/-- The exit status. -/
def Ending.status : Ending → Nat
  | success => 0
  | failure | crash _ => 1
  | usage => 2

/-- What a command printed, how it ended, the files it left, and the requests it sent. -/
structure Answer where
  output : String
  ending : Ending
  files : Files
  sent : List Fetch.Sent := []

namespace Answer

/-- An answer that leaves the files as they are. -/
def keeping (files : Files) (output : String) (ending : Ending) : Answer :=
  { output, ending, files }

/-- A crash before anything was printed. -/
def crashed (files : Files) (crash : Crash) : Answer :=
  keeping files "" (.crash crash)

end Answer

end SdkFeed
