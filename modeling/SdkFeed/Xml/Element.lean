/-!
Element trees. A tree is generic in its names: a document is read with names as they are written,
and resolving its namespaces gives the same tree with expanded names.
-/

namespace SdkFeed.Xml

/-- A piece of the content of an element whose child elements are of type `α`. -/
inductive Item (α : Type) where
  | text (text : String)
  /-- A reference to a declared entity stood here; what it stands for follows it. -/
  | reference
  | child (element : α)
deriving Repr

/-- The prefixes in scope, innermost first, with their namespaces. The empty prefix stands for
names without one. -/
abbrev Scope := List (String × String)

/-- An element: its name, its attributes in document order, the line on which its start tag ends,
its content, and the prefixes in scope inside it as far as its reader keeps them. -/
inductive Element (ν : Type) where
  | mk (name : ν) (attributes : List (ν × String)) (line : Nat) (content : List (Item (Element ν)))
    (scope : Scope := [])

/-- A name in a namespace; the empty namespace stands for none. -/
structure Name where
  space : String
  label : String
deriving DecidableEq, Repr, Inhabited

/-- A name as messages show it: the namespace in braces, if there is one, before the label. -/
def Name.render (name : Name) : String :=
  if name.space.isEmpty then name.label else "\x7b" ++ name.space ++ "\x7d" ++ name.label

/-- The namespace and the label of a written name. What follows an opening brace at the start, up
to a closing one, is the namespace. -/
def splitTag (tag : String) : String × String :=
  match tag.toList with
  | '\x7b' :: rest =>
    let (space, label) := rest.span (· != '\x7d')
    (String.ofList space, String.ofList (label.drop 1))
  | _ => ("", tag)

namespace Item

variable {α : Type}

/-- The text of a piece of content. -/
def text? : Item α → Option String
  | .text s => some s
  | _ => none

/-- The child element of a piece of content. -/
def child? : Item α → Option α
  | .child element => some element
  | _ => none

end Item

namespace Element

variable {ν : Type}

def name : Element ν → ν
  | mk name _ _ _ _ => name

def attributes : Element ν → List (ν × String)
  | mk _ attributes _ _ _ => attributes

def line : Element ν → Nat
  | mk _ _ line _ _ => line

def content : Element ν → List (Item (Element ν))
  | mk _ _ _ content _ => content

def scope : Element ν → Scope
  | mk _ _ _ _ scope => scope

/-- The child elements in document order. -/
def children (element : Element ν) : List (Element ν) :=
  element.content.filterMap Item.child?

/-- The texts before the first child element. -/
def leadingTexts (element : Element ν) : List String :=
  (element.content.takeWhile fun item => item.child?.isNone).filterMap Item.text?

/-- The text before the first child element, if there is any. -/
def text? (element : Element ν) : Option String :=
  match element.leadingTexts with
  | [] => none
  | texts => some (String.join texts)

/-- The value of an attribute. -/
def attribute? [BEq ν] (element : Element ν) (name : ν) : Option String :=
  element.attributes.lookup name

mutual

/-- All text inside an element, nested elements included. -/
def innerText : Element ν → String
  | mk _ _ _ content _ => contentText content

/-- All text inside a list of pieces of content. -/
def contentText : List (Item (Element ν)) → String
  | [] => ""
  | .text s :: rest => s ++ contentText rest
  | .reference :: rest => contentText rest
  | .child element :: rest => innerText element ++ contentText rest

end

mutual

/-- An element without the prefixes in scope, throughout. -/
def bare : Element ν → Element ν
  | mk name attributes line content _ => mk name attributes line (bareContent content)

/-- Pieces of content without the prefixes in scope. -/
def bareContent : List (Item (Element ν)) → List (Item (Element ν))
  | [] => []
  | .text s :: rest => .text s :: bareContent rest
  | .reference :: rest => .reference :: bareContent rest
  | .child element :: rest => .child (bare element) :: bareContent rest

end

end Element

end SdkFeed.Xml
