import SdkFeed.Proofs.Load.Agreement
import SdkFeed.Proofs.Schema.Padding
import SdkFeed.Proofs.Schema.Validity
import SdkFeed.Proofs.Xml.Equality

/-! The check finds nothing just in the trees that conform to the content models. It walks through a document once
and remembers which children have come; that each child has come often enough, and not too often, is
the same as counting them all at the end. -/
namespace SdkFeed.Schema

open SdkFeed.Xml

/-- A tree without attributes that speak about the schema itself, and without references. -/
def IsPlain : Tree → Prop :=
  Element.Everywhere fun element =>
    (∀ attr ∈ element.attributes, attr.1.space ≠ instanceSpace) ∧ Item.reference ∉ element.content

instance : DecidablePred IsPlain :=
  inferInstanceAs (DecidablePred (Element.Everywhere _))

/-- A member is found by its key, if no other one has this key. -/
theorem find?_of_mem {α : Type} {key : α → String} {members : List α}
    (hDistinct : (members.map key).Nodup) {member : α} (hMember : member ∈ members) :
    members.find? (key · == key member) = some member := by
  obtain ⟨front, back, rfl⟩ := List.append_of_mem hMember
  rw [List.map_append, List.nodup_append] at hDistinct
  refine List.find?_eq_some_iff_append.mpr ⟨BEq.rfl, front, back, rfl, ?_⟩
  intro other hOther
  have hDifferent := hDistinct.2.2 (key other) (List.mem_map_of_mem hOther) (key member)
    List.mem_cons_self
  simpa using hDifferent

theorem lookup_of_mem {α : Type} {items : List (String × α)} {label : String} {value : α}
    (hDistinct : (items.map Prod.fst).Nodup) (hItem : (label, value) ∈ items) :
    items.lookup label = some value := by
  obtain ⟨front, back, rfl⟩ := List.append_of_mem hItem
  rw [List.map_append, List.nodup_append] at hDistinct
  refine List.lookup_eq_some_iff.mpr ⟨front, back, rfl, ?_⟩
  intro other hOther
  have hDifferent := hDistinct.2.2 other.1 (List.mem_map_of_mem hOther) label List.mem_cons_self
  exact bne_iff_ne.mpr hDifferent.symm

/-- The use of an attribute that a rule describes. -/
def AttributeRule.use (rule : AttributeRule) : AttributeUse :=
  ⟨rule.label, rule.isRequired, rule.allowed.IsSpelled⟩

variable {edition : Edition} {form : Form} {content : Content} {element : Tree}

/-- No form has two rules for one attribute, or a rule with a blank in a value. -/
theorem Form.attributes_isPlain (form : Form) : (form.attributes.map AttributeRule.label).Nodup ∧
    ∀ rule ∈ form.attributes, rule.allowed.isPlain = true := by
  cases form with
  | license | licenseRef | archive | checksum => decide
  | index | package | flag | libraries | library | archives | value => exact ⟨List.nodup_nil, nofun⟩

/-- An attribute is in order just where one of the uses of its form describes it. -/
theorem isInOrder_iff (attr : Name × String) : IsInOrder form.attributes attr ↔
    ∃ use ∈ form.attributes.map AttributeRule.use, attr.1 = ⟨"", use.label⟩ ∧ use.IsValue attr.2 := by
  obtain ⟨hDistinct, hPlain⟩ := form.attributes_isPlain
  obtain ⟨⟨space, label⟩, value⟩ := attr
  constructor
  · rintro ⟨rule, hFound, hFits⟩
    rw [ruleFor?] at hFound
    split at hFound
    · rename_i hSpace
      have hEmpty : space = "" := by simpa using hSpace
      have hRule := List.mem_of_find?_eq_some hFound
      have hLabel : rule.label = label := by simpa using List.find?_some hFound
      refine ⟨rule.use, List.mem_map_of_mem hRule, ?_, (Allowed.fits_iff (hPlain rule hRule)).mp hFits⟩
      rw [hEmpty, ← hLabel]
      rfl
    · cases hFound
  · rintro ⟨use, hUse, hName, hValue⟩
    obtain ⟨rule, hRule, rfl⟩ := List.mem_map.mp hUse
    refine ⟨rule, ?_, (Allowed.fits_iff (hPlain rule hRule)).mpr hValue⟩
    rw [ruleFor?, hName]
    exact find?_of_mem hDistinct hRule

/-- There is nothing wrong with the attributes of an element just where it has those of its form. -/
theorem attributeProblems_iff
    (hOwn : ∀ attr ∈ element.attributes, attr.1.space ≠ instanceSpace) :
    attributeProblems form.attributes element.attributes = [] ↔
      HasAttributes (form.attributes.map AttributeRule.use) element := by
  rw [attributeProblems_eq_nil]
  constructor
  · rintro ⟨hKnown, hThere⟩
    constructor
    · intro attr hAttr
      have hForeign : isInstance attr.1 = false := by
        simp [isInstance, hOwn attr hAttr]
      exact (isInOrder_iff attr).mp (hKnown attr hAttr hForeign)
    · intro use hUse hRequired
      obtain ⟨rule, hRule, rfl⟩ := List.mem_map.mp hUse
      obtain ⟨value, hValue⟩ := Option.isSome_iff_exists.mp (hThere rule hRule hRequired)
      exact ⟨value, mem_of_lookup_eq_some hValue⟩
  · rintro ⟨hKnown, hThere⟩
    refine ⟨?_, ?_⟩
    · intro attr hAttr _
      exact (isInOrder_iff attr).mpr (hKnown attr hAttr)
    · intro rule hRule hRequired
      obtain ⟨value, hValue⟩ := hThere rule.use (List.mem_map_of_mem hRule) hRequired
      rw [Option.isSome_iff_ne_none, Ne, List.lookup_eq_none_iff]
      intro hNone
      have hOther := hNone _ hValue
      simp [AttributeRule.use] at hOther

/-- An element without attributes that speak about the schema has none of these. -/
theorem attribute?_of_isOwn (hOwn : ∀ attr ∈ element.attributes, attr.1.space ≠ instanceSpace)
    {name : Name} (hName : name.space = instanceSpace) : element.attribute? name = none := by
  rw [Element.attribute?, List.lookup_eq_none_iff]
  intro attr hAttr
  rw [bne_iff_ne]
  intro hSame
  apply hOwn attr hAttr
  rw [← hSame, hName]

/-- What an element of a form is. -/
def Form.Meets (edition : Edition) : Form → Tree → Prop
  | index => fun element => HasAttributes [] element ∧ IsChoice edition.space edition.choices element
  | package kind => edition.IsPackage kind
  | license => IsLicense
  | licenseRef => IsLicenseRef
  | flag => IsFlag
  | libraries => IsLibraries edition.space
  | library => IsLibrary edition.space
  | archives => IsArchives edition.space
  | archive => IsArchive edition.space
  | checksum => IsChecksum
  | value type => IsValueElement type.IsSpelled

/-- The child that a field describes. -/
def Field.particle (edition : Edition) (field : Field) : Particle :=
  ⟨field.label, field.isRequired, field.form.Meets edition⟩

/-- What an element holds that has the content of a form. -/
def Content.IsHeld (edition : Edition) : Content → Tree → Prop
  | nothing => fun element => element.content = []
  | value type => IsSimple type.IsSpelled
  | fields list => IsAll edition.space (list.map (Field.particle edition))
  | items list needsOne => fun element =>
    IsChoice edition.space (list.map fun item => (item.1, item.2.Meets edition)) element ∧
      (needsOne = true → element.children ≠ [])

/-- No two children that an element may have share a label. -/
def Content.isDistinct : Content → Bool
  | fields list => decide (list.map Field.label).Nodup
  | items list _ => decide (list.map Prod.fst).Nodup
  | nothing | value _ => true

theorem Edition.content_isDistinct (hPublished : edition ∈ Edition.published) (form : Form) :
    (edition.content form).isDistinct = true := by
  cases form with
  | index =>
      have hTable : ∀ edition ∈ Edition.published, (edition.content .index).isDistinct = true := by
        decide
      exact hTable edition hPublished
  | package kind =>
      have hTable : ∀ edition ∈ Edition.published, ∀ kind ∈ Package.Kind.all,
          (edition.content (.package kind)).isDistinct = true := by decide
      exact hTable edition hPublished kind (by cases kind <;> decide)
  | license | licenseRef | flag | checksum | value => rfl
  | libraries | archives => simp [Edition.content, Content.isDistinct]
  | library | archive => simp [Edition.content, Content.isDistinct, Field.required, Field.optional]

theorem particles_eq (hPublished : edition ∈ Edition.published) (kind : Package.Kind) :
    edition.ownParticles kind ++ commonParticles edition.space =
      (edition.ownFields kind ++ Field.common).map (Field.particle edition) := by
  simp only [Edition.published, List.mem_cons, List.not_mem_nil, or_false] at hPublished
  rcases hPublished with rfl | rfl | rfl | rfl | rfl
  all_goals cases kind <;> rfl

theorem choices_eq (hPublished : edition ∈ Edition.published) : edition.choices =
    (edition.packageKinds.map (fun kind => (kind.name, Form.package kind)) ++
      [("license", Form.license)]).map fun item => (item.1, item.2.Meets edition) := by
  simp only [Edition.published, List.mem_cons, List.not_mem_nil, or_false] at hPublished
  rcases hPublished with rfl | rfl | rfl | rfl | rfl
  all_goals rfl

/-- An element is of a form just where it has the attributes of the form and holds its content. -/
theorem meets_iff (hPublished : edition ∈ Edition.published) : form.Meets edition element ↔
    HasAttributes (form.attributes.map AttributeRule.use) element ∧
      (edition.content form).IsHeld edition element := by
  cases form with
  | index =>
      rw [Form.Meets, choices_eq hPublished]
      apply and_congr_right
      intro _
      exact (and_iff_left nofun).symm
  | package kind =>
      rw [Form.Meets, Edition.isPackage_iff, particles_eq hPublished]
      exact Iff.rfl
  | license => exact isLicense_iff element
  | licenseRef => exact isLicenseRef_iff element
  | flag => exact isFlag_iff element
  | libraries =>
      rw [Form.Meets, isLibraries_iff]
      apply and_congr_right
      intro _
      exact (and_iff_left nofun).symm
  | library => exact isLibrary_iff edition.space element
  | archives =>
      rw [Form.Meets, isArchives_iff]
      apply and_congr_right
      intro _
      apply and_congr_right
      intro _
      exact ⟨fun hFilled _ => hFilled, fun hFilled => hFilled rfl⟩
  | archive => exact isArchive_iff edition.space element
  | checksum => exact isChecksum_iff element
  | value type => exact isValueElement_iff type.IsSpelled element

/-- The label of a child and its form, as a content names them. -/
def Content.Names : Content → String → Form → Prop
  | fields list, label, form => ∃ field ∈ list, field.label = label ∧ field.form = form
  | items list _, label, form => (label, form) ∈ list
  | nothing, _, _ | value _, _, _ => False

theorem Content.formOf?_iff (hDistinct : content.isDistinct = true) {label : String} :
    content.formOf? [] label = some form ↔ content.Names label form := by
  cases content with
  | nothing | value type => exact iff_of_false nofun id
  | fields list =>
      have hNodup : (list.map Field.label).Nodup := of_decide_eq_true hDistinct
      have hFound : (Content.fields list).formOf? [] label =
          (list.find? (·.label == label)).map Field.form := by
        simp [formOf?]
      rw [hFound, Option.map_eq_some_iff, Names]
      constructor
      · rintro ⟨field, hField, hForm⟩
        have hLabel : field.label = label := by simpa using List.find?_some hField
        exact ⟨field, List.mem_of_find?_eq_some hField, hLabel, hForm⟩
      · rintro ⟨field, hField, rfl, hForm⟩
        exact ⟨field, find?_of_mem hNodup hField, hForm⟩
  | items list needsOne =>
      have hNodup : (list.map Prod.fst).Nodup := of_decide_eq_true hDistinct
      constructor
      · intro hForm
        exact Content.mem_of_formOf? hForm
      · exact lookup_of_mem hNodup

/-- Labels that no particle has do not occur, the others at most once. -/
theorem IsAll.labels_nodup {space : String} {particles : List Particle}
    (hAll : IsAll space particles element) : (labelsIn element.content).Nodup := by
  rw [List.nodup_iff_count_le_one]
  intro label
  by_cases hSeen : label ∈ labelsIn element.content
  · obtain ⟨child, hChild, rfl⟩ := List.mem_map.mp hSeen
    obtain ⟨_, particle, hParticle, hLabel, _⟩ := hAll.known child hChild
    rw [← hLabel]
    exact hAll.once particle hParticle
  · rw [List.count_eq_zero_of_not_mem hSeen]
    omega

/-- Elements with children have blank text. -/
theorem hasBlankText_iff {content : Content}
    (hContent : ∀ text, content.textProblem? text = none ↔ text.toList.all isSpace = true) :
    (∀ text, Item.text text ∈ element.content → content.textProblem? text = none) ↔
      HasBlankText element := by
  apply forall₂_congr
  intro text _
  rw [hContent, List.all_eq_true]

section

variable (ih : ∀ child ∈ element.children, ∀ form,
    edition.Clears form child ↔ form.Meets edition child)
  (hWhole : Item.reference ∉ element.content)

include hWhole in
theorem admits_nothing :
    edition.Admits edition.Clears .nothing [] "" element.content ↔ element.content = [] := by
  constructor
  · intro hAdmits
    apply List.eq_nil_iff_forall_not_mem.mpr
    intro item hItem
    cases item with
    | text text => cases hAdmits.texts text hItem
    | reference => exact hWhole hItem
    | child child =>
        obtain ⟨_, form, hForm, _⟩ := hAdmits.children child (Element.mem_children.mpr hItem)
        cases hForm
  · intro hEmpty
    rw [hEmpty]
    exact Edition.admits_nil.mpr rfl

include hWhole in
theorem admits_value (type : ValueType) :
    edition.Admits edition.Clears (.value type) [] "" element.content ↔ IsSimple type.IsSpelled element := by
  constructor
  · intro hAdmits
    constructor
    · apply List.eq_nil_iff_forall_not_mem.mpr
      intro child hChild
      obtain ⟨_, form, hForm, _⟩ := hAdmits.children child hChild
      cases hForm
    · exact ValueType.problem?_eq_none.mp hAdmits.ending
  · rintro ⟨hChildren, hText⟩
    refine ⟨hWhole, fun _ _ => rfl, ?_, nofun, ValueType.problem?_eq_none.mpr hText⟩
    intro child hChild
    rw [show childrenIn element.content = [] from hChildren] at hChild
    cases hChild

include ih hWhole in
theorem admits_items {list : List (String × Form)} {needsOne : Bool}
    (hDistinct : (Content.items list needsOne).isDistinct = true) :
    edition.Admits edition.Clears (.items list needsOne) [] "" element.content ↔
      (Content.items list needsOne).IsHeld edition element := by
  have hText : ∀ text, (Content.items list needsOne).textProblem? text = none ↔
      text.toList.all isSpace = true := by
    intro text
    simp [Content.textProblem?]
  have hEnding : (Content.items list needsOne).endProblem? ((labelsIn element.content).reverse ++ [])
      (textIn "" element.content) = none ↔ (needsOne = true → element.children ≠ []) := by
    have hLabels : ((labelsIn element.content).reverse ++ []).isEmpty = element.children.isEmpty := by
      rw [List.append_nil, List.isEmpty_reverse, labelsIn, List.isEmpty_map]
      rfl
    rw [Content.endProblem?, hLabels]
    cases needsOne <;> simp
  constructor
  · intro hAdmits
    refine ⟨⟨(hasBlankText_iff hText).mp hAdmits.texts, ?_⟩, hEnding.mp hAdmits.ending⟩
    intro child hChild
    obtain ⟨hSpace, form, hForm, hClears⟩ := hAdmits.children child hChild
    have hItem := (Content.formOf?_iff hDistinct).mp hForm
    exact ⟨hSpace, _, List.mem_map_of_mem hItem, rfl, (ih child hChild form).mp hClears⟩
  · rintro ⟨⟨hBlank, hKnown⟩, hFilled⟩
    refine ⟨hWhole, (hasBlankText_iff hText).mpr hBlank, ?_,
      fun hOnce => absurd hOnce Bool.false_ne_true, hEnding.mpr hFilled⟩
    intro child hChild
    obtain ⟨hSpace, choice, hChoice, hLabel, hFit⟩ := hKnown child hChild
    obtain ⟨⟨label, form⟩, hItem, rfl⟩ := List.mem_map.mp hChoice
    obtain rfl : label = child.name.label := hLabel
    exact ⟨hSpace, form, (Content.formOf?_iff hDistinct).mpr hItem, (ih child hChild form).mpr hFit⟩

include ih hWhole in
theorem admits_fields {list : List Field} (hDistinct : (Content.fields list).isDistinct = true) :
    edition.Admits edition.Clears (.fields list) [] "" element.content ↔
      (Content.fields list).IsHeld edition element := by
  have hText : ∀ text, (Content.fields list).textProblem? text = none ↔
      text.toList.all isSpace = true := by
    intro text
    simp [Content.textProblem?]
  have hEnding : (Content.fields list).endProblem? ((labelsIn element.content).reverse ++ [])
      (textIn "" element.content) = none ↔
        ∀ field ∈ list, field.isRequired = true → field.label ∈ labelsIn element.content := by
    simp [Content.endProblem?, Bool.or_eq_true, or_iff_not_imp_left]
  constructor
  · intro hAdmits
    have hNodup := (hAdmits.once rfl).1
    refine ⟨(hasBlankText_iff hText).mp hAdmits.texts, ?_, ?_, ?_⟩
    · intro child hChild
      obtain ⟨hSpace, form, hForm, hClears⟩ := hAdmits.children child hChild
      obtain ⟨field, hField, hLabel, rfl⟩ := (Content.formOf?_iff hDistinct).mp hForm
      exact ⟨hSpace, _, List.mem_map_of_mem hField, hLabel, (ih child hChild _).mp hClears⟩
    · intro particle _
      exact List.nodup_iff_count_le_one.mp hNodup particle.label
    · intro particle hParticle hRequired
      obtain ⟨field, hField, rfl⟩ := List.mem_map.mp hParticle
      have hSeen := hEnding.mp hAdmits.ending field hField hRequired
      exact List.count_eq_one_of_mem hNodup hSeen
  · intro hHeld
    have hNodup := hHeld.labels_nodup
    obtain ⟨hBlank, hKnown, _, hRequired⟩ := hHeld
    refine ⟨hWhole, (hasBlankText_iff hText).mpr hBlank, ?_,
      fun _ => ⟨hNodup, fun _ _ => List.not_mem_nil⟩, hEnding.mpr ?_⟩
    · intro child hChild
      obtain ⟨hSpace, particle, hParticle, hLabel, hFit⟩ := hKnown child hChild
      obtain ⟨field, hField, rfl⟩ := List.mem_map.mp hParticle
      have hForm := (Content.formOf?_iff hDistinct).mpr ⟨field, hField, hLabel, rfl⟩
      exact ⟨hSpace, field.form, hForm, (ih child hChild field.form).mpr hFit⟩
    · intro field hField hMust
      have hCount := hRequired _ (List.mem_map_of_mem hField) hMust
      apply List.count_pos_iff.mp
      change 0 < labelCount element field.label
      rw [show labelCount element field.label = 1 from hCount]
      omega

end

/-- The check finds nothing in an element of a plain tree just where it meets its form. -/
theorem clears_iff_meets (hPublished : edition ∈ Edition.published) :
    IsPlain element → ∀ form, edition.Clears form element ↔ form.Meets edition element := by
  -- A child may be of any form that the content names, so the hypothesis is for all forms.
  induction element using Element.childInduction with
  | step element ih =>
      rintro ⟨⟨hOwn, hWhole⟩, hInside⟩ form
      have hChildren : ∀ child ∈ element.children, ∀ form,
          edition.Clears form child ↔ form.Meets edition child :=
        fun child hChild => ih child hChild (hInside child hChild)
      have hDistinct := Edition.content_isDistinct hPublished form
      have hNil : element.attribute? nilName = none := attribute?_of_isOwn hOwn rfl
      rw [Edition.clears_iff_of_untyped (attribute?_of_isOwn hOwn rfl), and_iff_right hNil,
        attributeProblems_iff hOwn, meets_iff hPublished]
      apply and_congr_right
      intro _
      cases hContent : edition.content form with
      | nothing => exact admits_nothing hWhole
      | value type => exact admits_value hWhole type
      | fields list =>
          rw [hContent] at hDistinct
          exact admits_fields hChildren hWhole hDistinct
      | items list needsOne =>
          rw [hContent] at hDistinct
          exact admits_items hChildren hWhole hDistinct

/-- The check comes upon no reference in content that holds none, if it comes upon none inside. -/
theorem reference_not_mem_contentFindings {items : List (Item Tree)} {parent : Name × Nat}
    (hWhole : Item.reference ∉ items) (hInside : ∀ child ∈ childrenIn items, ∀ form,
      Finding.reference ∉ edition.findings form child) (seen : List String) (text : String) :
    Finding.reference ∉ edition.contentFindings form parent seen text items := by
  induction items generalizing seen text with
  | nil =>
      rw [Edition.contentFindings]
      cases (edition.content form).endProblem? seen text <;> simp
  | cons item rest ih =>
      obtain ⟨hFirst, hRest⟩ := List.ne_and_not_mem_of_not_mem_cons hWhole
      cases item with
      | reference => exact absurd rfl hFirst
      | text piece =>
          rw [Edition.contentFindings, List.mem_append, not_or]
          refine ⟨?_, ih hRest hInside seen (text ++ piece)⟩
          cases (edition.content form).textProblem? piece <;> simp
      | child child =>
          obtain ⟨hChild, hOthers⟩ := List.forall_mem_cons.mp hInside
          rw [Edition.contentFindings]
          split
          · cases edition.content form <;> simp [refusal]
          · rw [List.mem_append, not_or]
            exact ⟨hChild _, ih hRest hOthers _ text⟩

theorem reference_not_mem_findings :
    IsPlain element → ∀ form, Finding.reference ∉ edition.findings form element := by
  induction element using Element.childInduction with
  | step element ih =>
      rintro ⟨⟨_, hWhole⟩, hInside⟩ form
      obtain ⟨name, attributes, line, items, scope⟩ := element
      rw [Edition.findings, List.mem_append, not_or]
      constructor
      · simp
      · apply reference_not_mem_contentFindings hWhole
        intro child hChild
        exact ih child hChild (hInside child hChild)

theorem documentFindings_iff_conforms {root : Tree} (hPublished : edition ∈ Edition.published)
    (hPlain : IsPlain root) : edition.documentFindings root = [] ↔ edition.Conforms root := by
  rw [Edition.documentFindings_eq_nil, clears_iff_meets hPublished hPlain]
  constructor
  · rintro ⟨hName, hAttributes, hContent⟩
    exact ⟨hName, hAttributes, hContent⟩
  · rintro ⟨hName, hAttributes, hContent⟩
    exact ⟨hName, hAttributes, hContent⟩

/-- A document whose tree is plain is judged, and it is valid just where the reader of the check takes it
and its tree conforms to the schema. -/
theorem valid_iff_conforms {bytes : List UInt8} (url : String)
    (hPublished : edition.isPublished = true)
    (hPlain : ∀ root, Strict.read? bytes = some root → IsPlain root) :
    ∃ validation, Validator.standard.validate edition url bytes = .ok validation ∧
      (validation.isValid = true ↔
        ∃ root, Strict.read? bytes = some root ∧ edition.Conforms root) := by
  have hEdition := Edition.mem_published hPublished
  have hJudged : Validator.standard.validate edition url bytes =
      (edition.judge bytes).map (Validation.ofVerdict edition url) :=
    Validator.validate_standard hPublished
  rw [hJudged, Edition.judge]
  cases hRead : Strict.read? bytes with
  | none => exact ⟨_, rfl, iff_of_false Bool.false_ne_true (by simp)⟩
  | some root =>
      have hTree := hPlain root hRead
      simp only [Option.some.injEq, exists_eq_left']
      rw [← documentFindings_iff_conforms hEdition hTree]
      have hNone : .reference ∉ edition.documentFindings root := by
        rw [Edition.documentFindings]
        split
        · exact reference_not_mem_findings hTree .index
        · simp
      cases hVerdict : Verdict.ofFindings (edition.documentFindings root) with
      | error breakdown => exact absurd (Verdict.ofFindings_eq_error.mp hVerdict) hNone
      | ok verdict =>
          refine ⟨_, rfl, ?_⟩
          constructor
          · intro hValid
            cases verdict with
            | valid => exact Verdict.ofFindings_eq_valid hVerdict
            | notWellFormed | invalid => cases hValid
          · intro hClean
            rw [hClean] at hVerdict
            cases hVerdict
            rfl

/-- The index of the tools has a plain tree. -/
theorem toolIndex_judged : (Edition.mk .repository 3).isPublished = true ∧
    (∀ root, Strict.read? Load.toolIndex = some root → IsPlain root) ∧
    ∃ validation, Validator.standard.validate ⟨.repository, 3⟩ "https://sdk.test/repository.xml"
        Load.toolIndex = .ok validation ∧
      (validation.isValid = true ↔ ∃ root, Strict.read? Load.toolIndex = some root ∧
        Edition.Conforms ⟨.repository, 3⟩ root) := by
  have hPlain : ∀ root ∈ Strict.read? Load.toolIndex, IsPlain root := by decide +kernel
  exact ⟨by decide, hPlain, valid_iff_conforms "https://sdk.test/repository.xml" (by decide) hPlain⟩

/-- An index with two licenses of one name, whose document type makes these names unique in a document:
`<!DOCTYPE sdk-repository [<!ATTLIST license id ID #IMPLIED>]>`. -/
def repeatedIndex : List UInt8 :=
  Load.asciiBytes
    (['<', '!', 'D', 'O', 'C', 'T', 'Y', 'P', 'E', ' ', 's', 'd', 'k', '-', 'r', 'e', 'p', 'o',
      's', 'i', 't', 'o', 'r', 'y', ' ', '[', '<', '!', 'A', 'T', 'T', 'L', 'I', 'S', 'T', ' ',
      'l', 'i', 'c', 'e', 'n', 's', 'e', ' ', 'i', 'd', ' ', 'I', 'D', ' ', '#', 'I', 'M', 'P',
      'L', 'I', 'E', 'D', '>', ']', '>'] ++
      Load.indexTag ++
      ['>', '<', 'l', 'i', 'c', 'e', 'n', 's', 'e', ' ', 'i', 'd', '=', '"', 'a', '"', '>', 'x',
       '<', '/', 'l', 'i', 'c', 'e', 'n', 's', 'e', '>', '<', 'l', 'i', 'c', 'e', 'n', 's', 'e',
       ' ', 'i', 'd', '=', '"', 'a', '"', '>', 'y', '<', '/', 'l', 'i', 'c', 'e', 'n', 's', 'e',
       '>', '<', '/', 's', 'd', 'k', '-', 'r', 'e', 'p', 'o', 's', 'i', 't', 'o', 'r', 'y', '>'])

/-- A document with a plain tree that conforms to the schema, and that is not valid: the reader of the
check refuses it. -/
theorem repeatedIndex_refused :
    (∃ root, Xml.read repeatedIndex = .ok root ∧ IsPlain root ∧
      Edition.Conforms ⟨.repository, 3⟩ root) ∧
    ∀ url validation,
      Validator.standard.validate ⟨.repository, 3⟩ url repeatedIndex = .ok validation →
      validation.isValid = false := by
  constructor
  · have hTree : (Xml.read repeatedIndex).toOption.map (fun root =>
        decide (IsPlain root ∧ Edition.documentFindings ⟨.repository, 3⟩ root = [])) = some true := by
      decide +kernel
    cases hRead : Xml.read repeatedIndex with
    | error fault =>
        rw [hRead] at hTree
        cases hTree
    | ok root =>
        rw [hRead] at hTree
        obtain ⟨hPlain, hClean⟩ := of_decide_eq_true (Option.some.inj hTree)
        have hPublished : Edition.mk .repository 3 ∈ Edition.published := by decide
        exact ⟨root, rfl, hPlain, (documentFindings_iff_conforms hPublished hPlain).mp hClean⟩
  · intro url validation hAnswer
    have hRefused : Strict.read? repeatedIndex = none := by decide +kernel
    have hJudged : Validator.standard.validate ⟨.repository, 3⟩ url repeatedIndex =
        .ok (.ofVerdict ⟨.repository, 3⟩ url .notWellFormed) := by
      rw [Validator.validate_standard rfl, Edition.judge, hRefused]
      rfl
    rw [hJudged] at hAnswer
    cases hAnswer
    rfl

end SdkFeed.Schema
