import SdkFeed.Xml.Namespace
import SdkFeed.Xml.Strict.Address
import SdkFeed.Xml.Strict.Doctype

/-!
Start tags as the strict reader takes them: names are expanded by their prefixes on the spot. A
prefix that nothing binds is complained of, and the name stays as it is written, in no namespace.
-/

namespace SdkFeed.Xml.Strict

/-- An attribute that declares no namespace. -/
structure Attribute where
  /-- Its name as written. -/
  key : String
  /-- What stands before the colon of its name. -/
  mark : String
  /-- What stands behind it. -/
  label : String
  value : String
  /-- Its literal refers to entities that had to be declared. -/
  hasReference : Bool
deriving Repr

/-- What the attributes of a tag have made so far: the prefixes it binds, and its other attributes,
reversed. -/
structure Parts where
  bindings : Scope
  attributes : List Attribute
deriving Repr

namespace Parts

/-- A tag without attributes. -/
def empty : Parts :=
  ⟨[], []⟩

/-- Bind a prefix. One tag can do it once. -/
def bind (parts : Parts) (mark space : String) : Reading Parts := do
  guard (parts.bindings.lookup mark).isNone
  return { parts with bindings := (mark, space) :: parts.bindings }

/-- Take a declaration of the default namespace. -/
def declareDefault (parts : Parts) (space : String) : Reading Parts := do
  if space.isEmpty then parts.bind "" space
  else do
    if !Address.isValid space.toList then complain
    else if !Address.isAbsolute space.toList then remark
    if space == xmlSpace || space == declarationSpace then do
      complain
      return parts
    parts.bind "" space

/-- Take a declaration of the namespace of a prefix. -/
def declarePrefix (parts : Parts) (mark space : String) : Reading Parts := do
  if mark == "xml" then do
    complainIf (space != xmlSpace)
    return parts
  else if mark == "xmlns" || space == xmlSpace || space == declarationSpace || space.isEmpty then do
    complain
    return parts
  else do
    complainIf (!Address.isValid space.toList)
    parts.bind mark space

/-- Whether a literal refers to an entity that had to be declared. -/
def hasReference (doctype : Doctype) (literal : Literal) : Bool :=
  ((pieces? .broad literal).getD []).any fun
    | .entity name =>
      (predefined? name.text).isNone && (doctype.entities.lookup name.text).isSome
    | _ => false

/-- Take the next attribute of an element. -/
def add (doctype : Doctype) (element : Word) (parts : Parts) (name : Word) (literal : Literal) :
    Reading Parts := do
  let (mark, label) ← splitJudged name
  let type := ((doctype.rule? element.text name.text).map Rule.type).getD .text
  let value ← doctype.value type literal
  if mark == "xml" && label == "space" && value != "default" && value != "preserve" then remark
  if mark.isEmpty && label == "xmlns" then parts.declareDefault value
  else if mark == "xmlns" then parts.declarePrefix label value
  else
    let attr := ⟨name.text, mark, label, value, hasReference doctype literal⟩
    return { parts with attributes := attr :: parts.attributes }

/-- Bind the prefixes that declared defaults bind and the tag itself does not. -/
def withDefaults (parts : Parts) (defaults : List (String × String)) : Parts :=
  defaults.foldl (fun parts (key, value) =>
    match declaredPrefix? key with
    | none => parts
    | some mark =>
      if (parts.bindings.lookup mark).isSome then parts
      else { parts with bindings := (mark, value) :: parts.bindings }) parts

end Parts

/-- The namespace of a prefix; a prefix that nothing binds has none. -/
def spaceOf (scope : Scope) (mark : String) : Reading (Option String) :=
  if mark.isEmpty then pure none
  else match scope.lookup mark with
    | some space => pure (some space)
    | none => do
      complain
      return none

/-- An attribute with its namespace. -/
structure Placed where
  space : Option String
  attr : Attribute
deriving Repr

namespace Placed

/-- The expanded name of an attribute. -/
def name (placed : Placed) : Name :=
  match placed.space with
  | some space => ⟨space, placed.attr.label⟩
  | none => ⟨"", placed.attr.key⟩

/-- Whether two attributes have the same namespace and label. -/
def coincides (one other : Placed) : Bool :=
  one.space == other.space && one.attr.label == other.attr.label

/-- Judge an attribute beside those before it. The same name cannot be written twice; the same
expanded name is complained of. -/
def judge (before : List Placed) (placed : Placed) : Reading Unit :=
  match before.find? placed.coincides with
  | none => pure ()
  | some other => do
    guard (other.attr.mark != placed.attr.mark)
    complain

/-- Judge each attribute beside those before it. -/
def judgeAll (before : List Placed) : List Placed → Reading Unit
  | [] => pure ()
  | placed :: rest => do
    judge before placed
    judgeAll (before ++ [placed]) rest

/-- Judge the defaults of attributes, which are not put into the element. A default gives way to
an attribute that is written in the same way. -/
def judgeDefaults (scope : Scope) (before : List Placed) : List (String × String) → Reading Unit
  | [] => pure ()
  | (key, value) :: rest => do
    let (mark, label) := splitName key
    let placed := ⟨← spaceOf scope mark, ⟨key, mark, label, value, false⟩⟩
    match before.find? placed.coincides with
    | none => judgeDefaults scope (before ++ [placed]) rest
    | some other => do
      complainIf (other.attr.mark != mark)
      judgeDefaults scope before rest

/-- Take the identifier that an attribute gives to an element of the given type. -/
def judgeId (doctype : Doctype) (element : Word) (placed : Placed) : Reading Unit := do
  let attr := placed.attr
  if attr.hasReference then pure ()
  else if attr.key == "xml:id" then do
    complainIf (!Alphabet.broad.isPlainName (Text.collapse isSpace attr.value.toList))
    identify attr.value
  else if ((doctype.rule? element.text attr.key).map Rule.type) == some .id then
    identify attr.value

end Placed

namespace Doctype

/-- The defaults declared for the attributes of an element type, in the order of declaration. -/
def defaults (doctype : Doctype) (element : String) : List (String × String) :=
  doctype.rules.filterMap fun rule =>
    if rule.element == element then rule.default.map fun value => (rule.key, value) else none

/-- What a start tag makes: the scope inside the element, its name and its attributes. Identifiers
in the texts of entities do not count. -/
def readTag (doctype : Doctype) (countsIds : Bool) (scope : Scope) (tag : Tag) :
    Reading (Scope × Name × List (Name × String)) := do
  let (mark, label) ← splitJudged tag.name
  let parts ← tag.attributes.foldlM
    (fun parts (name, literal) => parts.add doctype tag.name name literal) Parts.empty
  let defaults := doctype.defaults tag.name.text
  let inner := (parts.withDefaults defaults).bindings ++ scope
  let placed ← parts.attributes.reverse.mapM fun attr => do
    return Placed.mk (← spaceOf inner attr.mark) attr
  Placed.judgeAll [] placed
  Placed.judgeDefaults inner placed
    (defaults.filter fun (key, _) => (declaredPrefix? key).isNone)
  let name ← if mark.isEmpty then pure ⟨(inner.lookup "").getD "", label⟩
    else match ← spaceOf inner mark with
      | some space => pure ⟨space, label⟩
      | none => pure ⟨"", tag.name.text⟩
  if countsIds then placed.forM (Placed.judgeId doctype tag.name)
  return (inner, name, placed.map fun placed => (placed.name, placed.attr.value))

end Doctype

end SdkFeed.Xml.Strict
