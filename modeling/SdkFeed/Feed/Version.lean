import SdkFeed.Feed.Kind
import SdkFeed.Text.Integer
import SdkFeed.Xml.Document

/-!
The schema version that a document declares: the number at the end of its root element's
namespace. Detection reads the names as they are written, so a document with unresolvable
prefixes elsewhere still has a version. A document without a version of the family has version 0.
-/

namespace SdkFeed.Feed

open SdkFeed.Xml

/-- Split a name at its first colon, if something stands before and behind it. -/
def splitLabel (name : String) : Option String × String :=
  match name.toList.span (· != ':') with
  | (first :: before, _ :: second :: behind) =>
    (some (String.ofList (first :: before)), String.ofList (second :: behind))
  | _ => (none, name)

/-- The attribute that declares the namespace of a prefix. -/
def declarationOf : Option String → String
  | some label => "xmlns:" ++ label
  | none => "xmlns"

/-- The version that a root element declares. -/
def versionOfRoot (kind : Kind) (root : RawElement) : Nat :=
  let (label, name) := splitLabel root.name
  if name != kind.family.root then 0
  else match root.attribute? (declarationOf label) with
    | none => 0
    | some space => ((kind.family.versionDigits? space).bind Text.natural?).getD 0

/-- The version that a document declares. The only document whose version cannot be told is one
that names an unknown encoding. -/
def detectVersion (kind : Kind) (bytes : List UInt8) : Except ReadError Nat :=
  match Document.ofBytes bytes with
  | .ok document => .ok (versionOfRoot kind document.root)
  | .error (.encoding (.unknown name)) => .error (.encoding (.unknown name))
  | .error _ => .ok 0

end SdkFeed.Feed
