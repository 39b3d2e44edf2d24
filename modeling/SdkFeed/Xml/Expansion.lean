import SdkFeed.Xml.Outline

/-!
What it costs to replace the references of a document. Entities that refer to each other can make
a short document endless for all practical purposes, so readers refuse documents that grow too
much. The cost is counted without replacing anything.
-/

namespace SdkFeed.Xml

/-- The size of a text in bytes, and the names of the entities it refers to. -/
structure Extent where
  size : Nat
  names : List String
deriving Repr

namespace Extent

/-- The names between an ampersand and the next semicolon. `pending` holds the characters of a
name that is not finished, reversed. -/
def namesFrom (acc : List String) : Option (List Char) → List Char → List String
  | _, [] => acc.reverse
  | _, '&' :: rest => namesFrom acc (some []) rest
  | some pending, ';' :: rest => namesFrom (String.ofList pending.reverse :: acc) none rest
  | some pending, c :: rest => namesFrom acc (some (c :: pending)) rest
  | none, _ :: rest => namesFrom acc none rest

/-- The extent of a text. -/
def ofChars (chars : List Char) : Extent :=
  ⟨Text.utf8Count chars, namesFrom [] none chars⟩

/-- What is left of a budget after the texts of entities are put in for their names, each at an
extra charge, through at most `depth` levels. There is nothing left when the budget is used up. -/
def spend? (texts : List (String × Extent)) (charge : Nat) :
    Nat → Nat → List String → Option Nat
  | 0, budget, _ => some budget
  | depth + 1, budget, names =>
    names.foldlM (fun budget name =>
      match texts.lookup name with
      | none => some budget
      | some extent =>
        if extent.size + charge < budget then
          spend? texts charge depth (budget - extent.size - charge) extent.names
        else none) budget

/-- Whether references to entities cost less than a budget. -/
def isWithin (texts : List (String × List Char)) (charge budget : Nat) (names : List String) :
    Bool :=
  (spend? (texts.map fun (name, text) => (name, ofChars text)) charge (texts.length + 1) budget
    names).isSome

end Extent

/-- The names of the entities that a literal refers to. -/
def Literal.references (literal : Literal) : List String :=
  (Extent.ofChars literal.chars).names

/-- The names of the entities that a token refers to. -/
def Token.references : Token → List String
  | .reference name => [name.text]
  | .openTag tag => tag.attributes.flatMap fun (_, value) => value.references
  | _ => []

/-- The names of the entities that a declaration refers to at once. Those in the text of an entity
matter only where that text is put in. -/
def Markup.references : Markup → List String
  | .attributes _ definitions =>
    definitions.flatMap fun definition => (definition.default.map Literal.references).getD []
  | _ => []

/-- A document type declaration without those of attributes. -/
def TypeDeclaration.withoutAttributes (declaration : TypeDeclaration) : TypeDeclaration :=
  { declaration with
    markups := declaration.markups.filter fun
      | .attributes .. => false
      | _ => true }

/-- The names of the entities whose texts a document has put in, once for each time. -/
def Outline.references (outline : Outline) : List String :=
  let markups := (outline.declaration?.map TypeDeclaration.markups).getD []
  markups.flatMap Markup.references ++ outline.root.flatMap Token.references

end SdkFeed.Xml
