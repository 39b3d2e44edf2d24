import SdkFeed.Xml.Element
import SdkFeed.Xml.ReadError

/-!
Namespaces: every prefix in scope stands for a namespace, and names are expanded by their
prefixes. Main definition: `Element.resolve`, from a tree with names as written to the same tree
with expanded names.
-/

namespace SdkFeed.Xml

/-- The namespace of the prefix that is always bound. -/
def xmlSpace : String :=
  "http://www.w3.org/XML/1998/namespace"

/-- The namespace of namespace declarations; nothing can be bound to it. -/
def declarationSpace : String :=
  "http://www.w3.org/2000/xmlns/"

/-- The scope around the root element. -/
def Scope.outermost : Scope :=
  [("xml", xmlSpace)]

/-- A prefix and a label: what stands before and behind the first colon. A name without a colon
has the empty prefix. -/
def splitName (name : String) : String × String :=
  match name.toList.span (· != ':') with
  | (_, []) => ("", name)
  | (before, _ :: label) => (String.ofList before, String.ofList label)

/-- The prefix that an attribute declares, if it is a namespace declaration. -/
def declaredPrefix? (key : String) : Option String :=
  if key == "xmlns" then some ""
  else match splitName key with
    | ("xmlns", label) => some label
    | _ => none

/-- What forbids to bind a prefix to a namespace. Only the default can be unbound, and the reserved
prefixes and namespaces stay with each other. -/
def bindingFault? (label space : String) : Option NameFault :=
  if !label.isEmpty && space.isEmpty then some .emptyBinding
  else if label == "xmlns" then some .xmlnsBound
  else if space.toList.contains '\x7d' then some .closingBrace
  else if label == "xml" && space != xmlSpace then some .xmlRebound
  else if label != "xml" && space == xmlSpace then some .reservedSpace
  else if space == declarationSpace then some .reservedSpace
  else none

/-- Enter an element: its namespace declarations come into scope. -/
def Scope.enter (scope : Scope) (attributes : List (String × String)) : Except NameFault Scope :=
  attributes.foldlM (fun scope (name, value) =>
    match declaredPrefix? name with
    | none => .ok scope
    | some label =>
      match bindingFault? label value with
      | none => .ok ((label, value) :: scope)
      | some fault => .error fault) scope

/-- Expand the name of an element. -/
def Scope.elementName (scope : Scope) (name : String) : Except NameFault Name :=
  let (label, rest) := splitName name
  match scope.lookup label with
  | some space => .ok ⟨space, rest⟩
  | none => if label.isEmpty then .ok ⟨"", rest⟩ else .error .unboundPrefix

/-- Expand the name of an attribute: without a prefix it is in no namespace. -/
def Scope.attributeName (scope : Scope) (name : String) : Except NameFault Name :=
  let (label, rest) := splitName name
  if label.isEmpty then .ok ⟨"", rest⟩
  else match scope.lookup label with
    | some space => .ok ⟨space, rest⟩
    | none => .error .unboundPrefix

/-- Expand the names of attributes one after the other; two names must not become one. `acc` holds
the attributes that have been expanded, reversed. -/
def Scope.attributesFrom (scope : Scope) (acc : List (Name × String)) :
    List (String × String) → Except NameFault (List (Name × String))
  | [] => .ok acc.reverse
  | (name, value) :: rest => do
    let name ← scope.attributeName name
    if (acc.lookup name).isSome then throw .repeatedAttribute
    scope.attributesFrom ((name, value) :: acc) rest

/-- Expand the names of attributes; declarations go. -/
def Scope.attributes (scope : Scope) (attributes : List (String × String)) :
    Except NameFault (List (Name × String)) :=
  scope.attributesFrom [] (attributes.filter fun (name, _) => (declaredPrefix? name).isNone)

/-- Expand the names in a start tag. The scope inside the element comes first. -/
def Scope.expand (scope : Scope) (name : String) (attributes : List (String × String)) :
    Except NameFault (Scope × Name × List (Name × String)) := do
  let inner ← scope.enter attributes
  let attributes ← inner.attributes attributes
  return (inner, ← inner.elementName name, attributes)

namespace Element

mutual

/-- Expand the names of an element and of everything inside it. -/
def resolve (scope : Scope) : Element String → Except NameFault (Element Name)
  | mk name attributes line content _ => do
    let (inner, name, attributes) ← scope.expand name attributes
    return mk name attributes line (← resolveContent inner content)

/-- Expand the names in a list of pieces of content. -/
def resolveContent (scope : Scope) :
    List (Item (Element String)) → Except NameFault (List (Item (Element Name)))
  | [] => .ok []
  | .text s :: rest => do return .text s :: (← resolveContent scope rest)
  | .reference :: rest => do return .reference :: (← resolveContent scope rest)
  | .child element :: rest => do
    let element ← resolve scope element
    return .child element :: (← resolveContent scope rest)

end

end Element

/-- A tree with expanded names. -/
abbrev Tree := Element Name

end SdkFeed.Xml
