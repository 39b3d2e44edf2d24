import SdkFeed.Proofs.Package.Completeness

/-! What is known of the packages of a valid document. Each was read from an element that the schema
accepts, so its numbers are positive, its words are words, and its archives can be fetched and
checked. -/
namespace SdkFeed.Package

open SdkFeed.Schema SdkFeed.Xml SdkFeed.Text

variable {edition : Edition} {kind : Kind} {element : Tree} {label space : String}

/-- An archive of a valid document. -/
structure Archive.IsSound (archive : Archive) : Prop where
  size : 1 ≤ archive.size
  url : trim archive.url ≠ ""
  checksum : ValueType.digest.Fits archive.checksum

/-- A least revision, as an element asks for it: 0 where it asks for none. -/
def IsMinimum (element : Tree) (space label : String) (revision : Int) : Prop :=
  if (childNamed? element space label).isSome then 1 ≤ revision else revision = 0

/-- The fields of a variant that was read from an element of a valid document. -/
def Variant.IsSound (element : Tree) (space : String) : Variant → Prop
  | platform version level _ minimum =>
    version ≠ "" ∧ 1 ≤ level ∧ IsMinimum element space "min-tools-rev" minimum
  | addon name vendor level _ _ => name ≠ "" ∧ vendor ≠ "" ∧ 1 ≤ level
  | sample level _ minimum => 1 ≤ level ∧ IsMinimum element space "min-tools-rev" minimum
  | doc level _ => 1 ≤ level
  | tool minimum => IsMinimum element space "min-platform-tools-rev" minimum
  | platformTool => True
  | extra vendor path minimum =>
    (vendor = "" ∨ ValueType.word.Fits vendor) ∧ ValueType.word.Fits path ∧
      IsMinimum element space "min-tools-rev" minimum

/-- A package that was read from an element of a valid document. -/
structure IsSound (element : Tree) (space : String) (package : Package) : Prop where
  revision : 1 ≤ package.revision
  archives : package.archives ≠ []
  archive : ∀ archive ∈ package.archives, archive.IsSound
  variant : package.variant.IsSound element space

theorem trim_textOf (element : Tree) (space label : String) :
    trim (textOf element space label) = textOf element space label := by
  rw [textOf]
  cases childNamed? element space label with
  | none => decide
  | some child =>
      rw [trim_eq_self_iff, Option.map_some, Option.getD_some, trimmedText, trim,
        String.toList_ofList]
      exact isTrimmed_trimChars _

theorem one_le_of_requiredInteger {n : Int} (hAccepts : edition.Accepts (.package kind) element)
    (hPublished : edition ∈ Edition.published) (hLabel : label ∈ "revision" :: kind.levels)
    (hRead : requiredInteger element edition.space label = .ok n) : 1 ≤ n := by
  have hInteger : label ∈ kind.integers := by
    rcases List.mem_cons.mp hLabel with rfl | hLevel
    · exact List.mem_cons_self
    · exact .tail _ (List.mem_append_left _ hLevel)
  obtain ⟨m, hPositive, hValue⟩ := requiredInteger_of_isValue hAccepts
    (integers_isValue hPublished hInteger) (integers_required hPublished hLabel)
  rw [hValue] at hRead
  split at hRead
  · cases hRead
    omega
  · cases hRead

theorem isMinimum_of_optionalInteger {n : Int} (hAccepts : edition.Accepts (.package kind) element)
    (hPublished : edition ∈ Edition.published) (hLabel : label ∈ kind.minima)
    (hRead : optionalInteger element space label = .ok n) : IsMinimum element space label n := by
  rw [IsMinimum]
  rcases optionalInteger_of_isValue space hAccepts
      (integers_isValue hPublished (.tail _ (List.mem_append_right _ hLabel))) with
    ⟨hNone, _, hZero⟩ | ⟨hSome, m, hPositive, hValue⟩
  · rw [hZero] at hRead
    cases hRead
    rw [hNone]
    rfl
  · rw [hSome, if_pos rfl]
    rw [hValue] at hRead
    split at hRead
    · cases hRead
      omega
    · cases hRead

/-- An archive of the schema has a size, an address and a checksum. -/
theorem Archive.isSound_of_ofElement {archive : Archive} (hAccepts : edition.Accepts .archive element)
    (hRead : ofElement edition.space element = .ok archive) : archive.IsSound := by
  obtain ⟨url, hUrl, hRest⟩ := bind_eq_ok.mp hRead
  obtain ⟨size, hSize, hFields⟩ := bind_eq_ok.mp hRest
  cases hFields
  constructor
  · have hRequired : (edition.content .archive).requires "size" = true := rfl
    obtain ⟨child, hChild⟩ := childNamed?_of_requires hAccepts hRequired
    rcases optionalInteger_of_isValue edition.space hAccepts (size_isValue edition) with
      ⟨hNone, _⟩ | ⟨_, n, hPositive, hValue⟩
    · rw [hChild] at hNone
      cases hNone
    · rw [hValue] at hSize
      split at hSize
      · cases hSize
        exact Int.ofNat_le.mpr hPositive
      · cases hSize
  · obtain ⟨rfl, hFilled⟩ := requiredText_eq_ok.mp hUrl
    rw [trim_textOf]
    exact hFilled
  · have hRequired : (edition.content .archive).requires "checksum" = true := rfl
    obtain ⟨child, hChild⟩ := childNamed?_of_requires hAccepts hRequired
    obtain ⟨form, hForm, hChildAccepts⟩ := accepts_of_childNamed? hAccepts hChild
    cases hForm
    change ValueType.digest.Fits (((childNamed? element edition.space "checksum").map
      trimmedText).getD "")
    rw [hChild]
    exact trimmedText_fits hChildAccepts rfl

theorem archives_isSound (hPublished : edition ∈ Edition.published)
    (hAccepts : edition.Accepts (.package kind) element) {archives : List Archive}
    (hRead : archivesOf element edition.space = .ok archives) :
    archives ≠ [] ∧ ∀ archive ∈ archives, archive.IsSound := by
  have hRequired : ∀ edition ∈ Edition.published, ∀ kind ∈ Kind.all,
      (edition.content (.package kind)).requires "archives" = true := by decide
  obtain ⟨list, hList⟩ :=
    childNamed?_of_requires hAccepts (hRequired edition hPublished kind kind.mem_all)
  have hListAccepts := accepts_archives hPublished hAccepts hList
  rw [archivesOf, hList] at hRead
  constructor
  · -- An accepted list has an item, and each of its items is read.
    rintro rfl
    obtain ⟨child, hChild⟩ := hListAccepts.exists_item rfl
    obtain ⟨hSpace, form, hForm, _⟩ := hListAccepts.admits.children child hChild
    have hLabel : child.name.label = "archive" :=
      (Prod.mk.inj (List.mem_singleton.mp (Content.mem_of_formOf? hForm))).1
    have hNone := List.forall₂_nil_right_iff.mp (mapM_eq_ok.mp hRead)
    have hListed := mem_childrenNamed_of_space hChild hLabel hSpace
    rw [hNone] at hListed
    cases hListed
  · intro archive hArchive
    obtain ⟨child, hChild, hChildRead⟩ := exists_of_mem_results hRead archive hArchive
    exact Archive.isSound_of_ofElement (accepts_archive hListAccepts hChild) hChildRead

/-- The fields of a variant are sound: the schema says so of each value that is read for them. -/
theorem variant_isSound {libraries : List Library} {variant : Variant}
    (hPublished : edition ∈ Edition.published) (hAccepts : edition.Accepts (.package kind) element)
    (hRead : variantOf element edition.space libraries kind = .ok variant) :
    variant.IsSound element edition.space := by
  cases kind with
  | platform =>
      obtain ⟨version, hVersion, hRest⟩ := bind_eq_ok.mp hRead
      obtain ⟨level, hLevel, hRest⟩ := bind_eq_ok.mp hRest
      obtain ⟨minimum, hMinimum, hFields⟩ := bind_eq_ok.mp hRest
      cases hFields
      exact ⟨(requiredText_eq_ok.mp hVersion).2,
        one_le_of_requiredInteger hAccepts hPublished (by decide) hLevel,
        isMinimum_of_optionalInteger hAccepts hPublished (by decide) hMinimum⟩
  | addon =>
      obtain ⟨name, hName, hRest⟩ := bind_eq_ok.mp hRead
      obtain ⟨vendor, hVendor, hRest⟩ := bind_eq_ok.mp hRest
      obtain ⟨level, hLevel, hFields⟩ := bind_eq_ok.mp hRest
      cases hFields
      exact ⟨(requiredText_eq_ok.mp hName).2, (requiredText_eq_ok.mp hVendor).2,
        one_le_of_requiredInteger hAccepts hPublished (by decide) hLevel⟩
  | sample =>
      obtain ⟨level, hLevel, hRest⟩ := bind_eq_ok.mp hRead
      obtain ⟨minimum, hMinimum, hFields⟩ := bind_eq_ok.mp hRest
      cases hFields
      exact ⟨one_le_of_requiredInteger hAccepts hPublished (by decide) hLevel,
        isMinimum_of_optionalInteger hAccepts hPublished (by decide) hMinimum⟩
  | doc =>
      obtain ⟨level, hLevel, hFields⟩ := bind_eq_ok.mp hRead
      cases hFields
      exact one_le_of_requiredInteger hAccepts hPublished (by decide) hLevel
  | tool =>
      obtain ⟨minimum, hMinimum, hFields⟩ := bind_eq_ok.mp hRead
      cases hFields
      exact isMinimum_of_optionalInteger hAccepts hPublished (by decide) hMinimum
  | platformTool =>
      cases hRead
      trivial
  | extra =>
      obtain ⟨path, hPath, hRest⟩ := bind_eq_ok.mp hRead
      obtain ⟨minimum, hMinimum, hFields⟩ := bind_eq_ok.mp hRest
      cases hFields
      obtain ⟨rfl, hFilled⟩ := requiredText_eq_ok.mp hPath
      have hForms : ∀ edition ∈ Edition.published, ∀ label ∈ ["vendor", "path"],
          (edition.content (.package .extra)).formOf? [] label = some (.value .word) := by decide
      have hWord (label : String) (hLabel : label ∈ ["vendor", "path"]) :
          textOf element edition.space label = "" ∨
            ValueType.word.Fits (textOf element edition.space label) := by
        have hValue := isValue_of_forms (.inr (hForms edition hPublished label hLabel))
        exact (textOf_fits hAccepts hValue).imp And.right And.right
      exact ⟨hWord "vendor" (by decide), (hWord "path" (by decide)).resolve_left hFilled,
        isMinimum_of_optionalInteger hAccepts hPublished (by decide) hMinimum⟩

/-- A package that is read from an accepted element is sound. -/
theorem isSound_of_isRead {libraries : List Library} {sourceUrl : String} {package : Package}
    (hPublished : edition ∈ Edition.published) (hAccepts : edition.Accepts (.package kind) element)
    (hRead : IsRead element edition.space sourceUrl
      (variantOf element edition.space libraries kind) package) :
    IsSound element edition.space package := by
  obtain ⟨hFilled, hArchives⟩ := archives_isSound hPublished hAccepts hRead.archives
  exact ⟨one_le_of_requiredInteger hAccepts hPublished List.mem_cons_self hRead.revision, hFilled,
    hArchives, variant_isSound hPublished hAccepts hRead.variant⟩

/-- All packages of a valid document are sound. Each was read from a child of the root: its revision
and its level are positive, and so is a least revision where the child asks for one; its archives can
be fetched and checked; its words are words, and its names are not empty. -/
theorem valid_packages_sound {validator : Validator} {url : String} {bytes : List UInt8}
    (sourceUrl : String) (hPasses : validator.Passes edition url bytes)
    (hAgree : ReadersAgree bytes) :
    ∃ root packages, Xml.read bytes = .ok root ∧
      (Index.ofDocument edition.kind edition.space sourceUrl root).packages = some packages ∧
      ∀ package ∈ packages, ∃ element ∈ root.children,
        ofElement edition.kind edition.space (licensesOf root edition.space) sourceUrl element =
          .ok (some package) ∧
        IsSound element edition.space package := by
  obtain ⟨hPublished, root, hRead, hName, hAccepts⟩ := hPasses.exists_root hAgree
  have hIndex := ofDocument_of_root sourceUrl hPublished hName
  refine ⟨root, _, hRead, congrArg Index.packages hIndex, fun package hPackage => ?_⟩
  obtain ⟨child, hChild, _, hMade⟩ := exists_child (List.mem_mergeSort.mp hPackage)
  obtain ⟨kind, libraries, hKind, hPackageRead⟩ := isRead_of_ofElement hMade
  refine ⟨child, hChild, hMade, ?_⟩
  obtain ⟨_, hLicense | ⟨other, _, _, hOther, hChildAccepts⟩⟩ :=
    accepts_child hPublished hAccepts hChild
  · rw [hLicense] at hKind
    cases hKind
  · rw [hKind] at hOther
    obtain rfl := Option.some.inj hOther
    exact isSound_of_isRead hPublished hChildAccepts hPackageRead

/-- The package of the index of the tools is sound. -/
theorem toolIndex_sound :
    Validator.standard.Passes ⟨.repository, 3⟩ "https://sdk.test/repository.xml" Load.toolIndex ∧
    ReadersAgree Load.toolIndex ∧
    ∃ root packages, Xml.read Load.toolIndex = .ok root ∧
      (Index.ofDocument .repository (Edition.space ⟨.repository, 3⟩) "a" root).packages =
        some packages ∧
      ∀ package ∈ packages, ∃ element ∈ root.children,
        ofElement .repository (Edition.space ⟨.repository, 3⟩)
            (licensesOf root (Edition.space ⟨.repository, 3⟩)) "a" element = .ok (some package) ∧
        IsSound element (Edition.space ⟨.repository, 3⟩) package :=
  ⟨toolIndex_passes, toolIndex_readersAgree,
    valid_packages_sound "a" toolIndex_passes toolIndex_readersAgree⟩

end SdkFeed.Package
