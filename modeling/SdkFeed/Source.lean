import SdkFeed.Feed.Kind
import SdkFeed.Package.Basic
import SdkFeed.Text.Character
import SdkFeed.Text.Quoted

/-!
Sources: the sites that packages are loaded from. A source is known by its address; what a load
brings is kept with it until the next load succeeds.
-/

namespace SdkFeed

/-- Whether a text ends in another one. -/
def endsIn (s ending : String) : Bool :=
  ending.toList.isSuffixOf s.toList

/-- The address of the index file below an address, unless the address names it already. -/
def alternateUrl (url file : String) : String :=
  if endsIn url file then url
  else if endsIn url "/" then url ++ file
  else url ++ "/" ++ file

/-- A site that packages are loaded from. -/
structure Source where
  url : String
  name : Option String
  kind : Feed.Kind
  /-- What the last successful load brought. -/
  packages : Option (List Package)
  /-- The error of the last load. -/
  fetchError : Option String
  description : String
deriving DecidableEq, Repr

namespace Source

/-- An address as sources keep it: without blanks around it, and naming the index file where it
named a directory. -/
def normalUrl (kind : Feed.Kind) (url : String) : String :=
  let url := Text.trim url
  if endsIn url "/" then url ++ kind.family.indexFile else url

/-- The description of a source that is not loaded. An empty name counts as none. -/
def defaultDescription (kind : Feed.Kind) (name : Option String) (url : String) : String :=
  match kind with
  | .repository => "SDK Source: " ++ url
  | .addon =>
    let provider := match name.getD "" with
      | "" => ""
      | name => "Add-on Provider: " ++ name ++ "\n"
    provider ++ "Add-on URL: " ++ url

/-- The source at an address. -/
def ofUrl (url : String) (name : Option String) (kind : Feed.Kind) : Source :=
  let url := normalUrl kind url
  { url, name, kind, packages := none, fetchError := none
    description := defaultDescription kind name url }

/-- Forget the packages. -/
def clear (source : Source) : Source :=
  { source with packages := none }

/-- The name of a source, or its address if it has none. -/
def shortDescription (source : Source) : String :=
  match source.name.getD "" with
  | "" => source.url
  | name => name

/-- A source as messages for developers show it. -/
def label (source : Source) : String :=
  "SdkSource(" ++ Text.quoted source.url ++ ", kind=" ++ source.kind.name ++ ")"

/-- Two sources are the same if their addresses are. -/
def same (a b : Source) : Bool :=
  a.url == b.url

end Source

end SdkFeed
