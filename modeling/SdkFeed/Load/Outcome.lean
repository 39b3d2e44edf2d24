import SdkFeed.Package.Basic

/-!
What comes of a load: the packages of a source, or the reason why there are none.
-/

namespace SdkFeed.Load

/-- The states that a load goes through. -/
inductive State where
  | start
  | fetching
  | fetchFailed
  | fetched
  | detectingVersion
  | noVersion
  | versionSupported
  | versionTooNew
  | validating
  | validationFailed
  | validatorMissing
  | validated
  | probing
  | probeFailed
  | probed
  | parsing
  | parsed
  | failed
deriving DecidableEq, Repr

namespace State

/-- The words of the name of a state. -/
def words : State → List String
  | start => ["start"]
  | fetching => ["fetching"]
  | fetchFailed => ["fetch", "failed"]
  | fetched => ["fetched"]
  | detectingVersion => ["detecting", "version"]
  | noVersion => ["no", "version"]
  | versionSupported => ["version", "supported"]
  | versionTooNew => ["version", "too", "new"]
  | validating => ["validating"]
  | validationFailed => ["validation", "failed"]
  | validatorMissing => ["validator", "missing"]
  | validated => ["validated"]
  | probing => ["probing"]
  | probeFailed => ["probe", "failed"]
  | probed => ["probed"]
  | parsing => ["parsing"]
  | parsed => ["parsed"]
  | failed => ["failed"]

/-- The name of a state in outcomes. -/
def name (state : State) : String :=
  "_".intercalate state.words

/-- The name of a state in the log. -/
def logName (state : State) : String :=
  state.name.map Char.toUpper

/-- Whether a load ends in this state. -/
def isFinal : State → Bool
  | parsed | failed => true
  | _ => false

end State

/-- The kinds of errors of a load. -/
inductive ErrorKind where
  | fetchNotFound
  | fetchInsecure
  | fetchBroken
  | validatorMissing
  | documentInvalid
  | unrecognizedDocument
  | unsupportedSchema
  | parseFailed
deriving DecidableEq, Repr

/-- The name of a kind of errors. -/
def ErrorKind.name : ErrorKind → String
  | fetchNotFound => "fetch_not_found"
  | fetchInsecure => "fetch_ssl"
  | fetchBroken => "fetch_io"
  | validatorMissing => "validator_missing"
  | documentInvalid => "document_invalid"
  | unrecognizedDocument => "unrecognized_document"
  | unsupportedSchema => "unsupported_schema"
  | parseFailed => "parse_failed"

/-- What a user is told to update when a document is too new. -/
inductive Hint where
  | tools
  | idePlugin
deriving DecidableEq, Repr

namespace Hint

/-- All hints. -/
def all : List Hint :=
  [tools, idePlugin]

/-- The name of a hint. -/
def name : Hint → String
  | tools => "tools"
  | idePlugin => "ide_plugin"

/-- The hint of a given name. -/
def ofName? (name : String) : Option Hint :=
  all.find? (·.name == name)

/-- What has to be updated. -/
def subject : Hint → String
  | tools => "Tools"
  | idePlugin => "IDE plugin"

/-- The hint in one line. -/
def info (hint : Hint) : String :=
  "This repository requires a more recent version of the " ++ hint.subject ++ ". " ++
    match hint with
    | tools => "Please update."
    | idePlugin => "Please update the plugin."

/-- The hint as the description of a source. -/
def description (hint : Hint) : String :=
  "This repository requires a more recent version of the " ++ hint.subject ++
    ".\nYou must update it before you can see other new packages."

end Hint

/-- What comes of a load. -/
structure Outcome where
  /-- The address that the source should keep. -/
  url : String
  state : State
  description : String
  /-- The packages, if the load succeeded. -/
  packages : Option (List Package)
  error : Option String
  errorKind : Option ErrorKind
  validationError : Option String
  version : Nat
  /-- The namespace that the packages were read in. -/
  space : Option String
  usedAlternate : Bool
  /-- Only the tools of a newer document could be read. -/
  needsUpgrade : Bool
deriving DecidableEq, Repr

namespace Outcome

/-- Whether a load succeeded. -/
def isSuccess (outcome : Outcome) : Bool :=
  outcome.state == .parsed

end Outcome

/-- How many packages there are, in words. -/
def countSummary (count : Int) : String :=
  if count == 0 then "No packages found."
  else if count == 1 then "One package found."
  else toString count ++ " packages found."

end SdkFeed.Load
