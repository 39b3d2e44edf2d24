import Mathlib.Data.List.Nodup
import Mathlib.Data.List.TakeWhile
import SdkFeed.Proofs.Schema.Value
import SdkFeed.Proofs.Success
import SdkFeed.Proofs.Xml.Renaming
import SdkFeed.Schema.Finding

/-! What it takes for the check to find nothing in an element, told of the element and its children
alone: which children and which text it may hold, and that each child is accepted as what its label
makes it. An element may say itself of which form it is, in prefixes that only the reader of the check
keeps; whatever it says, it holds what its parent's word for it demands. -/
namespace SdkFeed.Schema

open SdkFeed.Xml

/-- The check finds nothing in an element that should be of a given form. -/
def Edition.Clears (edition : Edition) (form : Form) (element : Tree) : Prop :=
  edition.findings form element = []

/-- The check finds nothing in an element that should be of a given form, with some prefixes in scope. -/
def Edition.Accepts (edition : Edition) (form : Form) (element : Tree) : Prop :=
  ∃ full : Tree, full.bare = element.bare ∧ edition.Clears form full

/-- The children in a list of pieces of content. -/
def childrenIn (items : List (Item Tree)) : List Tree :=
  items.filterMap Item.child?

/-- The labels of the children in a list of pieces of content. -/
def labelsIn (items : List (Item Tree)) : List String :=
  (childrenIn items).map fun child => child.name.label

theorem labelsIn_child (child : Tree) (rest : List (Item Tree)) :
    labelsIn (.child child :: rest) = child.name.label :: labelsIn rest :=
  rfl

/-- The text in a list of pieces of content, behind the text that came before. -/
def textIn (text : String) (items : List (Item Tree)) : String :=
  (items.filterMap Item.text?).foldl (· ++ ·) text

/-- Whether children may come only once. -/
def Content.isOnce : Content → Bool
  | fields _ => true
  | nothing | value _ | items .. => false

/-- Whether a child with a label must come. -/
def Content.requires (content : Content) (label : String) : Bool :=
  match content with
  | fields list => list.any fun field => field.isRequired && field.label == label
  | nothing | value _ | items .. => false

theorem Content.formOf?_eq_some {content : Content} {seen : List String} {label : String}
    {form : Form} : content.formOf? seen label = some form ↔
      content.formOf? [] label = some form ∧ (content.isOnce = true → label ∉ seen) := by
  cases content with
  | fields list =>
      by_cases hSeen : label ∈ seen
      · simp [formOf?, isOnce, hSeen]
      · simp [formOf?, isOnce, hSeen]
  | nothing | value | items => simp [formOf?, isOnce]

/-- The children of a list are those that it names. -/
theorem Content.mem_of_formOf? {items : List (String × Form)} {isFilled : Bool} {label : String}
    {form : Form} (hForm : (Content.items items isFilled).formOf? [] label = some form) :
    (label, form) ∈ items :=
  mem_of_lookup_eq_some hForm

theorem Form.isKindOf_iff {actual form : Form} :
    actual.isKindOf form = true ↔ actual = form ∨ form ∈ actual.bases := by
  simp [isKindOf]

/-- The form that another one is derived from is that of a value, and the values of the other one are
among its own. -/
theorem Form.exists_value_of_mem_bases {actual form : Form} (hBase : form ∈ actual.bases) :
    ∃ type base, form = .value base ∧ (∀ edition : Edition, edition.content actual = .value type) ∧
      ∀ raw, type.problem? raw = none → base.problem? raw = none := by
  cases actual with
  | value type =>
      obtain ⟨base, hIn, rfl⟩ := List.mem_map.mp hBase
      exact ⟨type, base, rfl, fun _ => rfl, fun raw => ValueType.problem?_of_mem_bases hIn⟩
  | license =>
      obtain rfl := List.mem_singleton.mp hBase
      exact ⟨_, _, rfl, fun _ => rfl, fun raw => id⟩
  | checksum =>
      rcases List.mem_cons.mp hBase with rfl | hBase
      · exact ⟨_, _, rfl, fun _ => rfl, fun raw => id⟩
      · obtain rfl := List.mem_singleton.mp hBase
        exact ⟨_, _, rfl, fun _ => rfl, fun raw _ => rfl⟩
  | index | package | licenseRef | flag | libraries | library | archives | archive => cases hBase

/-- What the rest of an element may hold, when children with the labels `seen` and the text `text`
have come, and the elements that fit a form are known. -/
structure Edition.Admits (edition : Edition) (Fits : Form → Tree → Prop) (content : Content)
    (seen : List String) (text : String) (items : List (Item Tree)) : Prop where
  references : Item.reference ∉ items
  texts : ∀ s, Item.text s ∈ items → content.textProblem? s = none
  children : ∀ child ∈ childrenIn items, child.name.space = edition.space ∧
    ∃ form, content.formOf? [] child.name.label = some form ∧ Fits form child
  once : content.isOnce = true → (labelsIn items).Nodup ∧ ∀ label ∈ labelsIn items, label ∉ seen
  ending : content.endProblem? ((labelsIn items).reverse ++ seen) (textIn text items) = none

namespace Edition

variable {edition : Edition} {Fits : Form → Tree → Prop} {content : Content} {seen : List String}
  {text : String} {rest items : List (Item Tree)} {form actual : Form} {parent : Name × Nat}
  {element other : Tree}

theorem admits_nil : edition.Admits Fits content seen text [] ↔ content.endProblem? seen text = none := by
  constructor
  · intro hAdmits
    exact hAdmits.ending
  · intro hEnding
    exact ⟨nofun, nofun, nofun, fun _ => ⟨List.nodup_nil, nofun⟩, hEnding⟩

theorem admits_text {s : String} : edition.Admits Fits content seen text (.text s :: rest) ↔
    content.textProblem? s = none ∧ edition.Admits Fits content seen (text ++ s) rest := by
  constructor
  · intro hAdmits
    exact ⟨hAdmits.texts s List.mem_cons_self, fun hIn => hAdmits.references (.tail _ hIn),
      fun other hIn => hAdmits.texts other (.tail _ hIn), hAdmits.children, hAdmits.once,
      hAdmits.ending⟩
  · rintro ⟨hText, hRest⟩
    refine ⟨by simpa using hRest.references, ?_, hRest.children, hRest.once, hRest.ending⟩
    · intro other hIn
      rcases List.mem_cons.mp hIn with hFirst | hIn
      · cases hFirst
        exact hText
      · exact hRest.texts other hIn

theorem not_admits_reference : ¬edition.Admits Fits content seen text (.reference :: rest) :=
  fun hAdmits => hAdmits.references List.mem_cons_self

theorem admits_child {child : Tree} :
    edition.Admits Fits content seen text (.child child :: rest) ↔
      (child.name.space = edition.space ∧ ∃ form,
        content.formOf? seen child.name.label = some form ∧ Fits form child) ∧
      edition.Admits Fits content (child.name.label :: seen) text rest := by
  constructor
  · intro hAdmits
    obtain ⟨hSpace, form, hForm, hFits⟩ := hAdmits.children child List.mem_cons_self
    refine ⟨⟨hSpace, form, Content.formOf?_eq_some.mpr ⟨hForm, fun hOnce =>
      (hAdmits.once hOnce).2 _ List.mem_cons_self⟩, hFits⟩, ?_⟩
    refine ⟨fun hIn => hAdmits.references (.tail _ hIn), fun s hIn => hAdmits.texts s (.tail _ hIn),
      fun other hIn => hAdmits.children other (.tail _ hIn), fun hOnce => ?_, ?_⟩
    · obtain ⟨hNodup, hNew⟩ := hAdmits.once hOnce
      obtain ⟨hFirst, hRest⟩ := List.nodup_cons.mp hNodup
      refine ⟨hRest, fun label hIn hSeen => ?_⟩
      rcases List.mem_cons.mp hSeen with rfl | hSeen
      · exact hFirst hIn
      · exact hNew label (.tail _ hIn) hSeen
    · have hEnding := hAdmits.ending
      rw [labelsIn_child, List.reverse_cons, List.append_assoc] at hEnding
      exact hEnding
  · rintro ⟨⟨hSpace, form, hForm, hFits⟩, hRest⟩
    obtain ⟨hForm, hNew⟩ := Content.formOf?_eq_some.mp hForm
    refine ⟨by simpa using hRest.references, fun s hIn => hRest.texts s (by simpa using hIn),
      List.forall_mem_cons.mpr ⟨⟨hSpace, form, hForm, hFits⟩, hRest.children⟩,
      fun hOnce => ?_, ?_⟩
    · obtain ⟨hNodup, hOther⟩ := hRest.once hOnce
      refine ⟨List.nodup_cons.mpr ⟨fun hIn => hOther _ hIn List.mem_cons_self, hNodup⟩, ?_⟩
      refine List.forall_mem_cons.mpr ⟨hNew hOnce, fun label hIn hSeen => ?_⟩
      exact hOther label hIn (.tail _ hSeen)
    · have hEnding := hRest.ending
      rw [labelsIn_child, List.reverse_cons, List.append_assoc]
      exact hEnding

/-- The check finds nothing in the rest of an element just where the element may hold it. -/
theorem contentFindings_eq_nil : contentFindings edition form parent seen text items = [] ↔
    edition.Admits edition.Clears (edition.content form) seen text items := by
  induction items generalizing seen text with
  | nil => simp [contentFindings, admits_nil]
  | cons item rest ih =>
      cases item with
      | text s => simp [contentFindings, admits_text, ih]
      | reference => simp [contentFindings, not_admits_reference]
      | child child =>
          rw [admits_child, contentFindings]
          by_cases hSpace : child.name.space = edition.space
          · cases hForm : (edition.content form).formOf? seen child.name.label with
            | none => simp [hSpace]
            | some childForm => simp [hSpace, ih, Clears]
          · simp [hSpace]

theorem claimProblems_eq_nil {claim : Except Problem Form} {attributes : List (Name × String)} :
    claimProblems claim attributes = [] ↔
      attributes.lookup nilName = none ∧ ∃ actual, claim = .ok actual := by
  unfold claimProblems
  rw [List.append_eq_nil_iff]
  apply and_congr
  · simp
  · cases claim with
    | ok actual => exact iff_of_true rfl ⟨actual, rfl⟩
    | error problem => exact iff_of_false nofun nofun

/-- Nothing is found in an element just where it may say of itself what it says, its attributes are in
order and it may hold what it holds. -/
theorem clears_iff : edition.Clears form element ↔ element.attribute? nilName = none ∧
    ∃ actual, edition.claimedForm form element.scope element.attributes = .ok actual ∧
      attributeProblems actual.attributes element.attributes = [] ∧
      edition.Admits edition.Clears (edition.content actual) [] "" element.content := by
  obtain ⟨name, attributes, line, items, scope⟩ := element
  rw [Clears, findings, List.append_eq_nil_iff, List.map_eq_nil_iff, List.append_eq_nil_iff,
    contentFindings_eq_nil, claimProblems_eq_nil]
  constructor
  · rintro ⟨⟨⟨hNil, actual, hClaim⟩, hAttributes⟩, hContent⟩
    rw [hClaim] at hAttributes hContent
    exact ⟨hNil, actual, hClaim, hAttributes, hContent⟩
  · rintro ⟨hNil, actual, hClaim, hAttributes, hContent⟩
    obtain hClaim : edition.claimedForm form scope attributes = .ok actual := hClaim
    rw [hClaim]
    exact ⟨⟨⟨hNil, actual, rfl⟩, hAttributes⟩, hContent⟩

/-- An element that names no type is of the form that it should be of. -/
theorem clears_iff_of_untyped (hUntyped : element.attribute? typeName = none) :
    edition.Clears form element ↔ element.attribute? nilName = none ∧
      attributeProblems form.attributes element.attributes = [] ∧
      edition.Admits edition.Clears (edition.content form) [] "" element.content := by
  have hClaim : edition.claimedForm form element.scope element.attributes = .ok form := by
    rw [claimedForm, show element.attributes.lookup typeName = none from hUntyped]
  simp [clears_iff, hClaim]

theorem Clears.accepts (hClears : edition.Clears form element) : edition.Accepts form element :=
  ⟨element, rfl, hClears⟩

theorem Accepts.of_bare (hAccepts : edition.Accepts form element)
    (hSame : element.bare = other.bare) : edition.Accepts form other := by
  obtain ⟨full, hFull, hClears⟩ := hAccepts
  exact ⟨full, hFull.trans hSame, hClears⟩

/-- What may be held does not depend on the prefixes in scope, if what the children are does not. -/
theorem Admits.of_bare {Others : Form → Tree → Prop} {others : List (Item Tree)}
    (hAdmits : edition.Admits Fits content seen text items)
    (hSame : items.map (Item.map Element.bare) = others.map (Item.map Element.bare))
    (hFits : ∀ form child other, child.bare = other.bare → Fits form child → Others form other) :
    edition.Admits Others content seen text others := by
  have hChildren : (childrenIn items).map Element.bare = (childrenIn others).map Element.bare := by
    rw [childrenIn, ← Item.filterMap_child?_map, hSame, Item.filterMap_child?_map, childrenIn]
  have hLabels : labelsIn items = labelsIn others := by
    have hBare (list : List (Item Tree)) : labelsIn list =
        ((childrenIn list).map Element.bare).map fun child => child.name.label := by
      rw [labelsIn, List.map_map]
      congr 1
      funext child
      rw [Function.comp, Element.name_bare]
    rw [hBare, hChildren, ← hBare]
  have hText : textIn text items = textIn text others := by
    rw [textIn, ← Item.filterMap_text?_map, hSame, Item.filterMap_text?_map, textIn]
  refine ⟨?_, ?_, ?_, ?_, ?_⟩
  · rw [← Item.reference_mem_map, ← hSame, Item.reference_mem_map]
    exact hAdmits.references
  · intro s hIn
    apply hAdmits.texts s
    rw [← Item.text_mem_map, hSame, Item.text_mem_map]
    exact hIn
  · intro other hOther
    have hIn := List.mem_map_of_mem (f := Element.bare) hOther
    rw [← hChildren] at hIn
    obtain ⟨child, hChild, hBare⟩ := List.mem_map.mp hIn
    obtain ⟨hSpace, form, hForm, hFit⟩ := hAdmits.children child hChild
    rw [← Element.name_of_bare hBare]
    exact ⟨hSpace, form, hForm, hFits form child other hBare hFit⟩
  · rw [← hLabels]
    exact hAdmits.once
  · rw [← hLabels, ← hText]
    exact hAdmits.ending

/-- An element is of the form that it should be of, unless it names a type. -/
theorem claimedForm_eq_ok {scope : Scope} {attributes : List (Name × String)} :
    edition.claimedForm form scope attributes = .ok actual ↔
      attributes.lookup typeName = none ∧ actual = form ∨
      ∃ raw reference, attributes.lookup typeName = some raw ∧
        Reference.read scope raw = .ok reference ∧ edition.formOf form reference = .ok actual := by
  rw [claimedForm]
  cases attributes.lookup typeName with
  | none => simp [eq_comm]
  | some raw => simp [bind_eq_ok]

/-- A reference stands for a form that an edition names, and that is derived from the form which the
element should be of. -/
theorem formOf_eq_ok {reference : Reference} : edition.formOf form reference = .ok actual ↔
    edition.formNamed? reference.name = some actual ∧ actual.isKindOf form = true := by
  rw [formOf]
  cases edition.formNamed? reference.name with
  | none =>
      refine iff_of_false ?_ nofun
      intro hForm
      simp only at hForm
      split at hForm <;> cases hForm
  | some other =>
      simp only [Option.some.injEq]
      split
      · rename_i hKind
        simp only [Except.ok.injEq, iff_self_and]
        rintro rfl
        exact hKind
      · rename_i hKind
        refine iff_of_false nofun ?_
        rintro ⟨rfl, hActual⟩
        exact hKind hActual

/-- The form that an element says it is of is the one that it should be of, or derived from it. -/
theorem isKindOf_of_claimedForm {scope : Scope} {attributes : List (Name × String)}
    (hClaim : edition.claimedForm form scope attributes = .ok actual) :
    actual.isKindOf form = true := by
  rcases claimedForm_eq_ok.mp hClaim with ⟨_, rfl⟩ | ⟨_, _, _, _, hForm⟩
  · exact Form.isKindOf_iff.mpr (.inl rfl)
  · exact (formOf_eq_ok.mp hForm).2

/-- A form that another one is derived from has a value, and those of the other one are among its own. -/
theorem content_of_isKindOf (hKind : actual.isKindOf form = true) : actual = form ∨
    ∃ type base, edition.content actual = .value type ∧ edition.content form = .value base ∧
      ∀ raw, type.problem? raw = none → base.problem? raw = none := by
  apply (Form.isKindOf_iff.mp hKind).imp_right
  intro hBase
  obtain ⟨type, base, rfl, hContent, hValues⟩ := Form.exists_value_of_mem_bases hBase
  exact ⟨type, base, hContent edition, rfl, hValues⟩

/-- An accepted element is of a form derived from the one that it should be of, and has what this form
demands. -/
theorem Accepts.exists_form (hAccepts : edition.Accepts form element) :
    ∃ actual, actual.isKindOf form = true ∧
      attributeProblems actual.attributes element.attributes = [] ∧
      edition.Admits edition.Accepts (edition.content actual) [] "" element.content := by
  obtain ⟨full, hSame, hClears⟩ := hAccepts
  obtain ⟨_, actual, hClaim, hAttributes, hAdmits⟩ := clears_iff.mp hClears
  rw [Element.attributes_of_bare hSame] at hAttributes
  refine ⟨actual, isKindOf_of_claimedForm hClaim, hAttributes, ?_⟩
  exact hAdmits.of_bare (Element.content_of_bare hSame)
    fun form child other hBare hChild => hChild.accepts.of_bare hBare

/-- An accepted element may hold what it holds, by the form that it should be of. -/
theorem Accepts.admits (hAccepts : edition.Accepts form element) :
    edition.Admits edition.Accepts (edition.content form) [] "" element.content := by
  obtain ⟨actual, hKind, _, hAdmits⟩ := hAccepts.exists_form
  rcases content_of_isKindOf hKind with rfl | ⟨type, base, hActual, hContent, hValues⟩
  · exact hAdmits
  · rw [hActual] at hAdmits
    rw [hContent]
    refine ⟨hAdmits.references, fun _ _ => rfl, ?_, nofun, hValues _ hAdmits.ending⟩
    intro child hChild
    obtain ⟨_, _, hForm, _⟩ := hAdmits.children child hChild
    cases hForm

/-- A child that an accepted element must have is there. -/
theorem Accepts.exists_child {label : String}
    (hAccepts : edition.Accepts form element) (hRequired : (edition.content form).requires label = true) :
    ∃ child ∈ element.children, child.name.label = label ∧ child.name.space = edition.space := by
  have hAdmits := hAccepts.admits
  have hEnding := hAdmits.ending
  cases hContent : edition.content form with
  | nothing | value | items =>
      rw [hContent] at hRequired
      cases hRequired
  | fields list =>
      rw [hContent] at hRequired hEnding
      simp only [Content.requires, List.any_eq_true, Bool.and_eq_true, beq_iff_eq] at hRequired
      obtain ⟨field, hField, hMust, rfl⟩ := hRequired
      have hSeen : field.label ∈ labelsIn element.content := by
        simp only [Content.endProblem?] at hEnding
        split at hEnding
        · rename_i hAll
          simpa [hMust] using List.all_eq_true.mp hAll field hField
        · cases hEnding
      obtain ⟨child, hChild, hLabel⟩ := List.mem_map.mp hSeen
      exact ⟨child, hChild, hLabel, (hAdmits.children child hChild).1⟩

/-- An accepted list that must not be empty has a child. -/
theorem Accepts.exists_item {items : List (String × Form)}
    (hAccepts : edition.Accepts form element) (hContent : edition.content form = .items items true) :
    ∃ child, child ∈ element.children := by
  have hEnding := hAccepts.admits.ending
  rw [hContent] at hEnding
  refine List.exists_mem_of_ne_nil _ fun hNone => ?_
  have hLabels : labelsIn element.content = [] := by
    rw [labelsIn, List.map_eq_nil_iff]
    exact hNone
  rw [hLabels] at hEnding
  cases hEnding

/-- The text of an accepted value is valid, and there is nothing beside it. -/
theorem Accepts.value {type : ValueType} (hAccepts : edition.Accepts form element)
    (hContent : edition.content form = .value type) :
    type.problem? (element.text?.getD "") = none := by
  have hAdmits := hAccepts.admits
  rw [hContent] at hAdmits
  -- No child is admitted, so all of the text stands before the first one.
  have hPlain : ∀ item ∈ element.content, item.child?.isNone = true := by
    intro item hItem
    cases hChild : item.child? with
    | none => rfl
    | some child =>
        obtain ⟨_, _, hForm, _⟩ :=
          hAdmits.children child (List.mem_filterMap.mpr ⟨item, hItem, hChild⟩)
        cases hForm
  have hTexts : element.leadingTexts = element.content.filterMap Item.text? := by
    rw [Element.leadingTexts, List.takeWhile_eq_self_iff.mpr hPlain]
  have hText : element.text?.getD "" = textIn "" element.content := by
    rw [Element.text?, hTexts, textIn]
    split
    · rename_i hNone
      rw [hNone]
      rfl
    · rfl
  rw [hText]
  exact hAdmits.ending

end Edition

end SdkFeed.Schema
