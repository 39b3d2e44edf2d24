import SdkFeed.Number.Shortest
import SdkFeed.Path
import SdkFeed.Text.Quoted

/-!
The settings of the program, and how the environment overrides them.
-/

namespace SdkFeed

/-- The settings of the program. -/
structure Settings where
  fetchTimeout : Number.Double
  userAgent : String
  /-- Fetch secure addresses over the open scheme. -/
  forceOpen : Bool
  verbose : Bool
  /-- How many sources are loaded at a time. -/
  maxWorkers : Int
  /-- The file with the sources of the user. -/
  sourcesPath : Path
deriving DecidableEq, Repr

namespace Settings

/-- The version of the program. -/
def programVersion : String :=
  "0.1.0"

/-- The settings of a user whose home is given, when nothing overrides them. -/
def standard (home : Path) : Settings where
  fetchTimeout := .ofRatio false 30 1
  userAgent := "sdkrepo/" ++ programVersion
  forceOpen := false
  verbose := false
  maxWorkers := 4
  sourcesPath := home.append [".sdkrepo", "sources.yaml"]

/-- Why the environment gives no settings. -/
inductive Error where
  | notANumber (text : String)
  | notAnInteger (text : String)
  | unknownHome
deriving DecidableEq, Repr

/-- The words for an error. -/
def Error.message : Error → String
  | notANumber text => "SDKREPO_FETCH_TIMEOUT must be a number, got " ++ Text.quoted text
  | notAnInteger text => "SDKREPO_MAX_WORKERS must be an integer, got " ++ Text.quoted text
  | unknownHome => "Could not determine home directory."

/-- The variables of the environment and their values. -/
abbrev Environment := List (String × String)

/-- The trimmed value of a variable, if it is not blank. -/
def valueOf? (environment : Environment) (name : String) : Option String :=
  ((environment.lookup name).map Text.trim).filter (!·.isEmpty)

/-- Change a setting if a variable is set. -/
def override (environment : Environment) (name : String)
    (change : Settings → String → Except Error Settings) (settings : Settings) :
    Except Error Settings :=
  match valueOf? environment name with
  | none => .ok settings
  | some value => change settings value

/-- The words that turn a switch on. -/
def affirmations : List String :=
  ["1", "true", "yes", "on"]

/-- The settings that an environment makes, for a user whose home is given. -/
def ofEnvironment (home : Path) (environment : Environment) : Except Error Settings := do
  let settings ← override environment "SDKREPO_FETCH_TIMEOUT" (fun settings value =>
    match Number.Double.ofText? value.toList with
    | some fetchTimeout => .ok { settings with fetchTimeout }
    | none => .error (.notANumber value)) (standard home)
  let settings ← override environment "SDKREPO_USER_AGENT" (fun settings value =>
    .ok { settings with userAgent := value }) settings
  let settings ← override environment "SDKREPO_FORCE_HTTP" (fun settings value =>
    .ok { settings with forceOpen := affirmations.contains (value.map Char.toLower) }) settings
  let settings ← override environment "SDKREPO_MAX_WORKERS" (fun settings value =>
    match Text.integer? value.toList with
    | some workers => .ok { settings with maxWorkers := max 1 workers }
    | none => .error (.notAnInteger value)) settings
  override environment "SDKREPO_SOURCES_PATH" (fun settings value =>
    match Path.expandHome? home (.ofText value) with
    | some sourcesPath => .ok { settings with sourcesPath }
    | none => .error .unknownHome) settings

end Settings

end SdkFeed
