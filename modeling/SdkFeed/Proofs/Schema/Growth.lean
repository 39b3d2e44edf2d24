import SdkFeed.Proofs.Schema.Conformance
import SdkFeed.Proofs.Xml.Renaming

/-! The versions of a family grow: whatever an element may hold in one version it may hold in the next,
once it is moved into the namespace of that version. What does not move is the word of an element that
names its own type: a type of the version before is no type of the next one. -/
namespace SdkFeed.Schema

open SdkFeed.Xml

/-- What is admitted by a content is admitted by a larger one. -/
structure Content.Grows (content larger : Content) : Prop where
  forms : ∀ label form, content.formOf? [] label = some form → larger.formOf? [] label = some form
  texts : ∀ text, content.textProblem? text = none → larger.textProblem? text = none
  once : larger.isOnce = true → content.isOnce = true
  ending : ∀ seen text, content.endProblem? seen text = none → larger.endProblem? seen text = none

theorem Content.Grows.refl (content : Content) : content.Grows content :=
  ⟨fun _ _ => id, fun _ => id, id, fun _ _ => id⟩

/-- More fields may come, as long as no more of them must. -/
theorem Content.grows_fields {list larger : List Field} (hDistinct : (fields list).isDistinct = true)
    (hLarger : (fields larger).isDistinct = true) (hMore : ∀ field ∈ list, field ∈ larger)
    (hRequired : ∀ field ∈ larger, field.isRequired = true → field ∈ list) :
    (fields list).Grows (fields larger) := by
  refine ⟨?_, fun _ => id, id, ?_⟩
  · intro label form hForm
    obtain ⟨field, hField, hNamed⟩ := (formOf?_iff hDistinct).mp hForm
    exact (formOf?_iff hLarger).mpr ⟨field, hMore field hField, hNamed⟩
  · intro seen text hEnding
    have hSeen : ∀ field ∈ list, field.isRequired = true → field.label ∈ seen := by
      simpa [endProblem?, or_iff_not_imp_left] using hEnding
    have hAll : ∀ field ∈ larger, field.isRequired = true → field.label ∈ seen := by
      intro field hField hMust
      exact hSeen field (hRequired field hField hMust) hMust
    simpa [endProblem?, or_iff_not_imp_left] using hAll

theorem Content.grows_items {list larger : List (String × Form)} {needsOne : Bool}
    (hDistinct : (items list needsOne).isDistinct = true)
    (hLarger : (items larger needsOne).isDistinct = true) (hMore : ∀ item ∈ list, item ∈ larger) :
    (items list needsOne).Grows (items larger needsOne) := by
  refine ⟨?_, fun _ => id, id, fun _ _ => id⟩
  intro label form hForm
  have hItem : (label, form) ∈ list := (formOf?_iff hDistinct).mp hForm
  exact (formOf?_iff hLarger).mpr (hMore _ hItem)

/-- An edition and the one after it. -/
structure Edition.IsFollowedBy (edition next : Edition) : Prop where
  first : edition ∈ Edition.published
  second : next ∈ Edition.published
  kind : next.kind = edition.kind
  version : next.version = edition.version + 1

namespace Edition

variable {edition next : Edition} {form : Form} {element : Tree}

/-- Every content grows with the version. -/
theorem IsFollowedBy.grows (hNext : edition.IsFollowedBy next) (form : Form) :
    (edition.content form).Grows (next.content form) := by
  obtain ⟨hFirst, hSecond, hKind, hVersion⟩ := hNext
  have hDistinct := content_isDistinct hFirst form
  have hLarger := content_isDistinct hSecond form
  cases form with
  | index =>
      have hTable : ∀ edition ∈ published, ∀ next ∈ published, next.kind = edition.kind →
          next.version = edition.version + 1 →
          ∀ kind ∈ edition.packageKinds, kind ∈ next.packageKinds := by decide
      refine Content.grows_items hDistinct hLarger ?_
      intro item hItem
      rcases List.mem_append.mp hItem with hPackage | hLicense
      · obtain ⟨kind, hIn, rfl⟩ := List.mem_map.mp hPackage
        have hMore := hTable edition hFirst next hSecond hKind hVersion kind hIn
        exact List.mem_append_left _ (List.mem_map_of_mem hMore)
      · exact List.mem_append_right _ hLicense
  | package kind =>
      have hTable : ∀ edition ∈ published, ∀ next ∈ published, next.kind = edition.kind →
          next.version = edition.version + 1 → ∀ kind ∈ Package.Kind.all,
          (∀ field ∈ edition.ownFields kind, field ∈ next.ownFields kind) ∧
          ∀ field ∈ next.ownFields kind, field.isRequired = true → field ∈ edition.ownFields kind := by
        decide
      obtain ⟨hMore, hRequired⟩ :=
        hTable edition hFirst next hSecond hKind hVersion kind (by cases kind <;> decide)
      refine Content.grows_fields hDistinct hLarger ?_ ?_
      · intro field hField
        rcases List.mem_append.mp hField with hOwn | hCommon
        · exact List.mem_append_left _ (hMore field hOwn)
        · exact List.mem_append_right _ hCommon
      · intro field hField hMust
        rcases List.mem_append.mp hField with hOwn | hCommon
        · exact List.mem_append_left _ (hRequired field hOwn hMust)
        · exact List.mem_append_right _ hCommon
  | license | licenseRef | flag | libraries | library | archives | archive | checksum | value =>
      exact .refl _

/-- What an accepted element holds is in the namespace of the edition, and so is the element if its
parent says so. -/
theorem Accepts.everywhere (hAccepts : edition.Accepts form element)
    (hSpace : element.name.space = edition.space) :
    element.Everywhere fun inner => inner.name.space = edition.space := by
  induction element using Element.childInduction generalizing form with
  | step element ih =>
      refine ⟨hSpace, ?_⟩
      intro child hChild
      obtain ⟨hChildSpace, childForm, _, hChildAccepts⟩ := hAccepts.admits.children child hChild
      exact ih child hChild hChildAccepts hChildSpace

theorem labelsIn_moved {source target : String} (items : List (Item Tree)) :
    labelsIn (items.map (Item.map (Element.moved source target))) = labelsIn items := by
  rw [labelsIn, childrenIn, Item.filterMap_child?_map, List.map_map, labelsIn, childrenIn]
  congr 1
  funext child
  rw [Function.comp, Element.name_moved, Name.label_moved]

/-- What an element may hold in one edition it may hold in the next one, when it is moved there. -/
theorem Admits.moved {Fits Others : Form → Tree → Prop} {items : List (Item Tree)}
    (hNext : edition.IsFollowedBy next) (hAdmits : edition.Admits Fits (edition.content form) [] "" items)
    (hFits : ∀ childForm, ∀ child ∈ childrenIn items, Fits childForm child →
      Others childForm (child.moved edition.space next.space)) :
    next.Admits Others (next.content form) [] ""
      (items.map (Item.map (Element.moved edition.space next.space))) := by
  obtain ⟨hForms, hTexts, hOnce, hEnding⟩ := hNext.grows form
  refine ⟨?_, ?_, ?_, ?_, ?_⟩
  · rw [Item.reference_mem_map]
    exact hAdmits.references
  · intro text hText
    exact hTexts text (hAdmits.texts text (Item.text_mem_map.mp hText))
  · intro child hChild
    rw [childrenIn, Item.filterMap_child?_map] at hChild
    obtain ⟨original, hOriginal, rfl⟩ := List.mem_map.mp hChild
    obtain ⟨hSpace, childForm, hForm, hFit⟩ := hAdmits.children original hOriginal
    rw [Element.name_moved, Name.moved_of_space hSpace]
    exact ⟨rfl, childForm, hForms _ _ hForm, hFits childForm original hOriginal hFit⟩
  · intro hSingle
    rw [labelsIn_moved]
    exact hAdmits.once (hOnce hSingle)
  · rw [labelsIn_moved, textIn, Item.filterMap_text?_map]
    exact hEnding _ _ hAdmits.ending

/-- An element names a type of a namespace as its own. -/
def NamesTypeOf (space : String) (element : Tree) : Prop :=
  ∃ raw reference, element.attribute? typeName = some raw ∧
    Reference.read element.scope raw = .ok reference ∧ reference.space = some space

theorem not_namesTypeOf_of_untyped {space : String} (hUntyped : element.attribute? typeName = none) :
    ¬NamesTypeOf space element := by
  rintro ⟨_, _, hRaw, _⟩
  cases hUntyped.symm.trans hRaw

/-- The namespaces of an edition and the next one, and that of the types of every schema, are different. -/
theorem IsFollowedBy.spaces (hNext : edition.IsFollowedBy next) : edition.space ≠ "" ∧
    edition.space ≠ typeSpace ∧ next.space ≠ edition.space := by
  obtain ⟨hFirst, hSecond, hKind, hVersion⟩ := hNext
  have hTable : ∀ edition ∈ published, ∀ next ∈ published, next.version = edition.version + 1 →
      edition.space ≠ "" ∧ edition.space ≠ typeSpace ∧ next.space ≠ edition.space := by decide
  exact hTable edition hFirst next hSecond hVersion

/-- A name outside the namespace of an edition stands for the same form in all of them. -/
theorem formNamed?_of_space_ne {name : Name} {actual : Form} (hOther : name.space ≠ edition.space)
    (hForm : edition.formNamed? name = some actual) : next.formNamed? name = some actual := by
  rw [formNamed?] at hForm ⊢
  split at hForm
  · rename_i hCommon
    rw [hCommon]
    exact hForm
  · rw [if_neg (by simpa using hOther)] at hForm
    cases hForm

/-- A name in the namespace of an edition stands for nothing in the next one. -/
theorem IsFollowedBy.formNamed?_eq_none {name : Name} (hNext : edition.IsFollowedBy next)
    (hSame : name.space = edition.space) : next.formNamed? name = none := by
  obtain ⟨_, hCommon, hOther⟩ := hNext.spaces
  rw [formNamed?, hSame, if_neg (by simpa using hCommon), if_neg (by simpa using hOther.symm)]

/-- An element that names no type of an edition is of the same form in the next one. -/
theorem IsFollowedBy.claimedForm_eq {actual : Form} (hNext : edition.IsFollowedBy next)
    (hOther : ¬NamesTypeOf edition.space element)
    (hClaim : edition.claimedForm form element.scope element.attributes = .ok actual) :
    next.claimedForm form element.scope element.attributes = .ok actual := by
  rw [claimedForm_eq_ok] at hClaim ⊢
  apply hClaim.imp_right
  rintro ⟨raw, reference, hRaw, hRead, hForm⟩
  obtain ⟨hNamed, hKind⟩ := formOf_eq_ok.mp hForm
  refine ⟨raw, reference, hRaw, hRead, formOf_eq_ok.mpr ⟨formNamed?_of_space_ne ?_ hNamed, hKind⟩⟩
  intro hSame
  refine hOther ⟨raw, reference, hRaw, hRead, ?_⟩
  obtain ⟨hFilled, _, _⟩ := hNext.spaces
  obtain ⟨_ | space, label⟩ := reference
  · exact absurd hSame.symm hFilled
  · exact congrArg some hSame

/-- An element that names a type of an edition is of no form in the next one. -/
theorem IsFollowedBy.not_namesTypeOf {actual : Form} (hNext : edition.IsFollowedBy next)
    (hClaim : next.claimedForm form element.scope element.attributes = .ok actual) :
    ¬NamesTypeOf edition.space element := by
  rintro ⟨raw, reference, hRaw, hRead, hSpace⟩
  rcases claimedForm_eq_ok.mp hClaim with ⟨hNone, _⟩ | ⟨other, found, hOther, hFound, hForm⟩
  · cases hNone.symm.trans hRaw
  · obtain rfl := Option.some.inj (hOther.symm.trans hRaw)
    obtain rfl := Except.ok.inj (hFound.symm.trans hRead)
    have hSame : found.name.space = edition.space := by rw [Reference.name, hSpace, Option.getD_some]
    rw [formOf_eq_ok, hNext.formNamed?_eq_none hSame] at hForm
    cases hForm.1

/-- An element in which nothing is found by one edition is moved to the next one without a finding just
where neither it nor anything inside names a type of the edition. -/
theorem Clears.moved_iff (hNext : edition.IsFollowedBy next) (hClears : edition.Clears form element) :
    next.Clears form (element.moved edition.space next.space) ↔
      element.Everywhere fun inner => ¬NamesTypeOf edition.space inner := by
  induction element using Element.childInduction generalizing form with
  | step element ih =>
      obtain ⟨hNil, actual, hClaim, hAttributes, hAdmits⟩ := clears_iff.mp hClears
      rw [Element.everywhere_iff, clears_iff, Element.attribute?, Element.attributes_moved,
        Element.scope_moved, Element.content_moved]
      constructor
      · rintro ⟨_, other, hOther, _, hMoved⟩
        have hHere := hNext.not_namesTypeOf hOther
        refine ⟨hHere, ?_⟩
        intro child hChild
        obtain ⟨hSpace, childForm, hForm, hChildClears⟩ := hAdmits.children child hChild
        -- The moved child is of the form that the next edition knows, which is the same one.
        have hSame : other = actual :=
          Except.ok.inj (hOther.symm.trans (hNext.claimedForm_eq hHere hClaim))
        have hIn : child.moved edition.space next.space ∈
            childrenIn (element.content.map (Item.map (Element.moved edition.space next.space))) := by
          rw [childrenIn, Item.filterMap_child?_map]
          exact List.mem_map_of_mem hChild
        obtain ⟨_, nextForm, hNextForm, hChildMoved⟩ := hMoved.children _ hIn
        have hKnown := (hNext.grows actual).forms _ _ hForm
        rw [Element.name_moved, Name.label_moved, hSame, hKnown] at hNextForm
        obtain rfl := Option.some.inj hNextForm
        exact (ih child hChild hChildClears).mp hChildMoved
      · rintro ⟨hHere, hInside⟩
        refine ⟨hNil, actual, hNext.claimedForm_eq hHere hClaim, hAttributes,
          hAdmits.moved hNext ?_⟩
        intro childForm child hChild hChildClears
        exact (ih child hChild hChildClears).mpr (hInside child hChild)

end Edition

end SdkFeed.Schema
