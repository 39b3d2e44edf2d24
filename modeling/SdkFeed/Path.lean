import SdkFeed.Text.Character

/-!
Paths of files. A path is kept in normal form: without empty parts and without parts that stay in
place. Parts that lead up are kept.
-/

namespace SdkFeed

/-- A path: the slashes at its start, and its parts. -/
structure Path where
  /-- Empty for a relative path; exactly two slashes are a root of their own. -/
  root : String
  parts : List String
deriving DecidableEq, Repr, Inhabited

namespace Path

/-- Split a text at its slashes. -/
def splitParts (acc : List Char) : List Char → List String
  | [] => [String.ofList acc.reverse]
  | '/' :: rest => String.ofList acc.reverse :: splitParts [] rest
  | c :: rest => splitParts (c :: acc) rest

/-- The path that a text names. -/
def ofText (text : String) : Path where
  root := match (text.toList.takeWhile (· == '/')).length with
    | 0 => ""
    | 2 => "//"
    | _ => "/"
  parts := (splitParts [] text.toList).filter fun part => part != "" && part != "."

/-- The text of a path. -/
def render (path : Path) : String :=
  if path.root.isEmpty && path.parts.isEmpty then "."
  else path.root ++ "/".intercalate path.parts

/-- The greatest number of bytes of a part. -/
def partLimit : Nat :=
  255

/-- The greatest number of bytes of a path. -/
def lengthLimit : Nat :=
  4095

/-- Whether a path has too many bytes to be used. -/
def isTooLong (path : Path) : Bool :=
  lengthLimit < path.render.utf8ByteSize

/-- Whether a path has a character of code zero, which no file can have in its name. -/
def hasZeroCode (path : Path) : Bool :=
  path.parts.any fun part => part.toList.contains '\x00'

/-- A path below another one. -/
def append (path : Path) (parts : List String) : Path :=
  { path with parts := path.parts ++ parts }

/-- A path whose first part is a tilde, with the home of the user in its place. The homes of other
users are not known. -/
def expandHome? (home path : Path) : Option Path :=
  match path.root.isEmpty, path.parts with
  | true, first :: rest =>
    if first == "~" then some (home.append rest)
    else if first.toList.head? == some '~' then none
    else some path
  | _, _ => some path

end Path

end SdkFeed
