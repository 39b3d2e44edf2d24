import SdkFeed.Schema.Claim

/-!
Checking a document against an edition. The check walks through the document and lists what it
finds: violations of the schema, and references to entities, behind which it cannot look. After
an element that should not be there the rest of its parent's content is not looked at.
-/

namespace SdkFeed.Schema

open SdkFeed.Xml

/-- A violation, with the element to blame and the line on which its start tag ends. -/
structure Violation where
  name : Name
  line : Nat
  problem : Problem
deriving DecidableEq, Repr

/-- What the check comes upon. -/
inductive Finding where
  | violation (violation : Violation)
  | reference
deriving DecidableEq, Repr

/-- The problem of one attribute that has a rule. -/
def AttributeRule.problem? (rule : AttributeRule) (name : Name) (value : String) :
    Option Problem :=
  match rule.allowed with
  | .anything => none
  | .oneOf choices =>
    if choices.contains (collapsed value) then none
    else some (.notAmong name.render (collapsed value) choices)
  | .exactly fixed =>
    if collapsed value == fixed then none else some (.notFixed name.render value fixed)

/-- The rule for an attribute; rules are for names without a namespace. -/
def ruleFor? (rules : List AttributeRule) (name : Name) : Option AttributeRule :=
  if name.space.isEmpty then rules.find? (·.label == name.label) else none

/-- Whether a problem is told before other problems of attributes. -/
def Problem.isEarly : Problem → Bool
  | .notAmong .. => true
  | _ => false

/-- The problems of the attributes of an element: first values outside their set, then the other
attributes that are wrong, then those that are missing. -/
def attributeProblems (rules : List AttributeRule) (attributes : List (Name × String)) :
    List Problem :=
  let own := attributes.filter fun (name, _) => !isInstance name
  let wrong := own.filterMap fun (name, value) =>
    match ruleFor? rules name with
    | some rule => rule.problem? name value
    | none => some (.unknownAttribute name.render)
  let missing := rules.filter fun rule =>
    rule.isRequired && (attributes.lookup ⟨"", rule.label⟩).isNone
  wrong.filter Problem.isEarly ++ wrong.filter (!·.isEarly) ++
    missing.map fun rule => .missingAttribute rule.label

/-- The problems of what an element says about itself. -/
def claimProblems (claim : Except Problem Form) (attributes : List (Name × String)) :
    List Problem :=
  ((attributes.lookup nilName).map nilProblem).toList ++
    match claim with
    | .ok _ => []
    | .error problem => [problem]

namespace Content

/-- The form of a child that may come now, when children with the labels `seen` have come. -/
def formOf? (content : Content) (seen : List String) (label : String) : Option Form :=
  match content with
  | .fields list =>
    if seen.contains label then none
    else (list.find? (·.label == label)).map Field.form
  | .items list _ => list.lookup label
  | _ => none

/-- The problem that a piece of text makes. -/
def textProblem? (content : Content) (text : String) : Option Problem :=
  match content with
  | .nothing => some .textInEmpty
  | .value _ => none
  | .fields _ | .items _ _ =>
    if text.toList.all isSpace then none else some .textAmongElements

/-- The problem at the end of an element, when children with the labels `seen` and the text
`text` have come. -/
def endProblem? (content : Content) (seen : List String) (text : String) : Option Problem :=
  match content with
  | .nothing => none
  | .value type => type.problem? text
  | .fields list =>
    if list.all fun field => !field.isRequired || seen.contains field.label then none
    else some .missingChild
  | .items _ needsOne => if needsOne && seen.isEmpty then some .missingChild else none

end Content

/-- The finding that a child may not come now: the child is to blame, unless its parent may have
no children at all. -/
def refusal (content : Content) (form : Form) (parent child : Name × Nat) : Finding :=
  match content with
  | .nothing => .violation ⟨parent.1, parent.2, .elementInEmpty⟩
  | .value _ => .violation ⟨parent.1, parent.2, .elementInValue !form.attributes.isEmpty⟩
  | _ => .violation ⟨child.1, child.2, .unexpected⟩

namespace Edition

mutual

/-- What is found in an element that should have a given form. What it says about its form counts
only if nothing is wrong with it. -/
def findings (edition : Edition) (form : Form) : Tree → List Finding
  | .mk name attributes line content scope =>
    let claim := edition.claimedForm form scope attributes
    let actual := claim.toOption.getD form
    (claimProblems claim attributes ++ attributeProblems actual.attributes attributes).map
        (.violation ⟨name, line, ·⟩) ++
      contentFindings edition actual (name, line) [] "" content

/-- What is found in the rest of an element's content, when children with the labels `seen` and
the text `text` have come. -/
def contentFindings (edition : Edition) (form : Form) (parent : Name × Nat) (seen : List String)
    (text : String) : List (Item Tree) → List Finding
  | [] =>
    (((edition.content form).endProblem? seen text).map (.violation ⟨parent.1, parent.2, ·⟩)).toList
  | .text s :: rest =>
    (((edition.content form).textProblem? s).map (.violation ⟨parent.1, parent.2, ·⟩)).toList ++
      contentFindings edition form parent seen (text ++ s) rest
  | .reference :: _ => [.reference]
  | .child child :: rest =>
    let known := if child.name.space == edition.space
      then (edition.content form).formOf? seen child.name.label else none
    match known with
    | none => [refusal (edition.content form) form parent (child.name, child.line)]
    | some childForm =>
      findings edition childForm child ++
        contentFindings edition form parent (child.name.label :: seen) text rest

end

/-- What is found in a document. -/
def documentFindings (edition : Edition) (root : Tree) : List Finding :=
  if root.name == ⟨edition.space, edition.kind.family.root⟩ then edition.findings .index root
  else [.violation ⟨root.name, root.line, .undeclaredRoot⟩]

end Edition

end SdkFeed.Schema
