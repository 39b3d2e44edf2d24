import SdkFeed.Proofs.Load.Agreement
import SdkFeed.Proofs.Package.Field
import SdkFeed.Proofs.Package.Reading
import SdkFeed.Proofs.Schema.Validity
import SdkFeed.Proofs.Xml.Equality

/-! Which elements of a valid document are packages. Every element that describes one is read, unless
a text that it must have is blank or a number in it has too many digits: the schema allows both. -/
namespace SdkFeed.Package

open SdkFeed.Schema SdkFeed.Xml SdkFeed.Text

namespace Kind

/-- The texts without which a package of a kind cannot be told. -/
def neededTexts : Kind → List String
  | platform => ["version"]
  | addon => ["name", "vendor"]
  | sample | doc | tool | platformTool | extra => []

/-- The integers that a package of a kind must have beside its revision. -/
def levels : Kind → List String
  | platform | addon | sample | doc => ["api-level"]
  | tool | platformTool | extra => []

/-- The least revisions that a package of a kind may ask for. -/
def minima : Kind → List String
  | platform | sample | extra => ["min-tools-rev"]
  | tool => ["min-platform-tools-rev"]
  | addon | doc | platformTool => []

/-- All integers that are read for a package of a kind. -/
def integers (kind : Kind) : List String :=
  "revision" :: (kind.levels ++ kind.minima)

theorem mem_all (kind : Kind) : kind ∈ all := by
  cases kind <;> decide

end Kind

/-- An archive that can be read: its address is not blank, and its size has not too many digits. -/
def Archive.IsReadable (space : String) (element : Tree) : Prop :=
  textOf element space "url" ≠ "" ∧ digitCount (textOf element space "size") ≤ digitLimit

/-- An element from which a package of a kind can be read. -/
structure IsReadable (kind : Kind) (space : String) (element : Tree) : Prop where
  texts : ∀ label ∈ kind.neededTexts, textOf element space label ≠ ""
  integers : ∀ label ∈ kind.integers, digitCount (textOf element space label) ≤ digitLimit
  archives : ∀ list, childNamed? element space "archives" = some list →
    ∀ archive ∈ childrenNamed list space "archive", Archive.IsReadable space archive
  libraries : kind = .addon → ∀ list, childNamed? element space "libs" = some list →
    ∀ library ∈ childrenNamed list space "lib", textOf library space "name" ≠ ""

variable {edition : Edition} {kind : Kind} {element : Tree} {label space : String}

theorem isValue_of_forms {form : Form} {type : ValueType}
    (hForms : (edition.content form).formOf? [] label = none ∨
      (edition.content form).formOf? [] label = some (.value type)) :
    IsValue edition form label type := by
  intro childForm hForm
  rcases hForms with hNone | hSome
  · rw [hNone] at hForm
    cases hForm
  · rw [hSome] at hForm
    cases hForm
    rfl

/-- All integers that are read are values of the schema, so far as the edition knows them. -/
theorem integers_isValue (hPublished : edition ∈ Edition.published)
    (hLabel : label ∈ kind.integers) : IsValue edition (.package kind) label .positive := by
  have hTable : ∀ edition ∈ Edition.published, ∀ kind ∈ Kind.all, ∀ label ∈ Kind.integers kind,
      (edition.content (.package kind)).formOf? [] label = none ∨
        (edition.content (.package kind)).formOf? [] label = some (.value .positive) := by decide
  exact isValue_of_forms (hTable edition hPublished kind kind.mem_all label hLabel)

theorem integers_required (hPublished : edition ∈ Edition.published)
    (hLabel : label ∈ "revision" :: kind.levels) :
    (edition.content (.package kind)).requires label = true := by
  have hTable : ∀ edition ∈ Edition.published, ∀ kind ∈ Kind.all, ∀ label ∈ "revision" :: Kind.levels kind,
      (edition.content (.package kind)).requires label = true := by decide
  exact hTable edition hPublished kind kind.mem_all label hLabel

theorem size_isValue (edition : Edition) : IsValue edition .archive "size" .positive :=
  isValue_of_forms (.inr rfl)

/-- An archive is read just where it can be. -/
theorem Archive.isOk_ofElement (hAccepts : edition.Accepts .archive element) :
    (Archive.ofElement edition.space element).isOk = true ↔
      Archive.IsReadable edition.space element := by
  simp only [ofElement, isOk_bind, isOk_pure, and_true, exists_and_right, ← isOk_iff,
    isOk_requiredText, isOk_optionalInteger hAccepts (size_isValue edition), IsReadable]

theorem accepts_archives {list : Tree} (hPublished : edition ∈ Edition.published)
    (hAccepts : edition.Accepts (.package kind) element)
    (hList : childNamed? element space "archives" = some list) : edition.Accepts .archives list := by
  have hTable : ∀ edition ∈ Edition.published, ∀ kind ∈ Kind.all,
      (edition.content (.package kind)).formOf? [] "archives" = some .archives := by decide
  obtain ⟨form, hForm, hListAccepts⟩ := accepts_of_childNamed? hAccepts hList
  rw [hTable edition hPublished kind kind.mem_all] at hForm
  cases hForm
  exact hListAccepts

theorem accepts_archive {archive : Tree} (hAccepts : edition.Accepts .archives element)
    (hArchive : archive ∈ childrenNamed element space "archive") :
    edition.Accepts .archive archive := by
  obtain ⟨form, hForm, hArchiveAccepts⟩ := accepts_of_mem_childrenNamed hAccepts hArchive
  cases hForm
  exact hArchiveAccepts

theorem isOk_archivesOf (hPublished : edition ∈ Edition.published)
    (hAccepts : edition.Accepts (.package kind) element) :
    (archivesOf element edition.space).isOk = true ↔
      ∀ list, childNamed? element edition.space "archives" = some list →
        ∀ archive ∈ childrenNamed list edition.space "archive",
          Archive.IsReadable edition.space archive := by
  rw [archivesOf]
  split
  · rename_i hNone
    refine iff_of_true rfl fun list hList => ?_
    rw [hNone] at hList
    cases hList
  · rename_i list hList
    have hListAccepts := accepts_archives hPublished hAccepts hList
    rw [isOk_mapM, hList]
    constructor
    · intro hAll other hOther archive hArchive
      obtain rfl := Option.some.inj hOther
      exact (Archive.isOk_ofElement (accepts_archive hListAccepts hArchive)).mp
        (hAll archive hArchive)
    · intro hAll archive hArchive
      exact (Archive.isOk_ofElement (accepts_archive hListAccepts hArchive)).mpr
        (hAll list rfl archive hArchive)

theorem isOk_librariesOf : (librariesOf element space).isOk = true ↔
    ∀ list, childNamed? element space "libs" = some list →
      ∀ library ∈ childrenNamed list space "lib", textOf library space "name" ≠ "" := by
  rw [librariesOf]
  split
  · rename_i hNone
    refine iff_of_true rfl fun list hList => ?_
    rw [hNone] at hList
    cases hList
  · rename_i list hList
    simp only [isOk_mapM, isOk_bind, isOk_pure, and_true, ← isOk_iff, isOk_requiredText, hList,
      Option.some.injEq, forall_eq']

/-- The path of an extra is a word, so it is not blank. -/
theorem path_ne_empty (hPublished : edition ∈ Edition.published)
    (hAccepts : edition.Accepts (.package .extra) element) :
    textOf element edition.space "path" ≠ "" := by
  have hTable : ∀ edition ∈ Edition.published,
      (edition.content (.package .extra)).formOf? [] "path" = some (.value .word) ∧
        (edition.content (.package .extra)).requires "path" = true := by decide
  obtain ⟨hForm, hRequired⟩ := hTable edition hPublished
  obtain ⟨child, hChild⟩ := childNamed?_of_requires hAccepts hRequired
  rcases textOf_fits hAccepts (isValue_of_forms (.inr hForm)) with ⟨hNone, _⟩ | ⟨_, hFits⟩
  · rw [hChild] at hNone
    cases hNone
  · exact hFits.1

/-- The fields of a variant are read just where its texts are not blank and its integers have not
too many digits. -/
theorem isOk_variantOf {libraries : List Library} (hPublished : edition ∈ Edition.published)
    (hAccepts : edition.Accepts (.package kind) element) :
    (variantOf element edition.space libraries kind).isOk = true ↔
      (∀ label ∈ kind.neededTexts, textOf element edition.space label ≠ "") ∧
      ∀ label ∈ kind.levels ++ kind.minima,
        digitCount (textOf element edition.space label) ≤ digitLimit := by
  have hLevels : ∀ label ∈ kind.levels, (requiredInteger element edition.space label).isOk = true ↔
      digitCount (textOf element edition.space label) ≤ digitLimit := fun label hLabel =>
    isOk_requiredInteger hAccepts
      (integers_isValue hPublished (.tail _ (List.mem_append_left _ hLabel)))
      (integers_required hPublished (.tail _ hLabel))
  have hMinima : ∀ label ∈ kind.minima, (optionalInteger element edition.space label).isOk = true ↔
      digitCount (textOf element edition.space label) ≤ digitLimit := fun label hLabel =>
    isOk_optionalInteger hAccepts
      (integers_isValue hPublished (.tail _ (List.mem_append_right _ hLabel)))
  cases kind with
  | platform | sample =>
      have hLevel := hLevels "api-level" (.head _)
      have hMinimum := hMinima "min-tools-rev" (.head _)
      simp [variantOf, isOk_bind, ← isOk_iff, isOk_requiredText, hLevel, hMinimum, Kind.neededTexts,
        Kind.levels, Kind.minima]
  | addon | doc =>
      have hLevel := hLevels "api-level" (.head _)
      simp [variantOf, isOk_bind, ← isOk_iff, isOk_requiredText, hLevel, Kind.neededTexts,
        Kind.levels, Kind.minima, and_assoc]
  | tool =>
      have hMinimum := hMinima "min-platform-tools-rev" (.head _)
      simp [variantOf, hMinimum, Kind.neededTexts, Kind.levels, Kind.minima]
  | platformTool => simp [variantOf, Kind.neededTexts, Kind.levels, Kind.minima]
  | extra =>
      have hPath := path_ne_empty hPublished hAccepts
      have hMinimum := hMinima "min-tools-rev" (.head _)
      simp [variantOf, isOk_bind, ← isOk_iff, isOk_requiredText, hPath, hMinimum, Kind.neededTexts,
        Kind.levels, Kind.minima]

theorem isOk_withCommon {licenses : Licenses} {sourceUrl : String}
    {variant : Except Fault Variant} :
    (withCommon element space licenses sourceUrl variant).isOk = true ↔
      (requiredInteger element space "revision").isOk = true ∧
        (archivesOf element space).isOk = true ∧ variant.isOk = true := by
  simp [withCommon, isOk_bind, ← isOk_iff]

/-- The package that an accepted element describes is read just where the element can be read. -/
theorem isOk_ofElementOfKind (licenses : Licenses) (sourceUrl : String)
    (hPublished : edition ∈ Edition.published)
    (hAccepts : edition.Accepts (.package kind) element) :
    (ofElementOfKind kind element edition.space licenses sourceUrl).isOk = true ↔
      IsReadable kind edition.space element := by
  have hParts (libraries : List Library) :=
    @isOk_withCommon element edition.space licenses sourceUrl
      (variantOf element edition.space libraries kind)
  simp only [isOk_requiredInteger hAccepts (integers_isValue hPublished List.mem_cons_self)
    (integers_required hPublished List.mem_cons_self), isOk_archivesOf hPublished hAccepts,
    isOk_variantOf hPublished hAccepts] at hParts
  rw [ofElementOfKind]
  -- Only add-ons have libraries, which are read before everything else.
  split
  · rename_i hAddon
    rw [isOk_bind]
    constructor
    · rintro ⟨libraries, hLibraries, hCommon⟩
      obtain ⟨hRevision, hArchives, hTexts, hIntegers⟩ := (hParts libraries).mp hCommon
      exact ⟨hTexts, List.forall_mem_cons.mpr ⟨hRevision, hIntegers⟩, hArchives,
        fun _ => isOk_librariesOf.mp (isOk_iff.mpr ⟨libraries, hLibraries⟩)⟩
    · intro hReadable
      obtain ⟨hRevision, hIntegers⟩ := List.forall_mem_cons.mp hReadable.integers
      obtain ⟨libraries, hLibraries⟩ :=
        isOk_iff.mp (isOk_librariesOf.mpr (hReadable.libraries hAddon))
      exact ⟨libraries, hLibraries, (hParts libraries).mpr
        ⟨hRevision, hReadable.archives, hReadable.texts, hIntegers⟩⟩
  · rename_i hOther
    constructor
    · intro hCommon
      obtain ⟨hRevision, hArchives, hTexts, hIntegers⟩ := (hParts []).mp hCommon
      exact ⟨hTexts, List.forall_mem_cons.mpr ⟨hRevision, hIntegers⟩, hArchives,
        fun hAddon => absurd hAddon hOther⟩
    · intro hReadable
      obtain ⟨hRevision, hIntegers⟩ := List.forall_mem_cons.mp hReadable.integers
      exact (hParts []).mpr ⟨hRevision, hReadable.archives, hReadable.texts, hIntegers⟩

/-- The children of the root of an accepted document are packages and licences. -/
theorem accepts_child {root child : Tree} (hPublished : edition ∈ Edition.published)
    (hAccepts : edition.Accepts .index root) (hChild : child ∈ root.children) :
    child.name.space = edition.space ∧ (child.name.label = "license" ∨
      ∃ kind : Kind, child.name.label = kind.name ∧ kind.name ≠ "license" ∧
        kindOf? edition.kind child.name.label = some kind ∧
        edition.Accepts (.package kind) child) := by
  have hTable : ∀ edition ∈ Edition.published, ∀ kind ∈ edition.packageKinds,
      kindOf? edition.kind kind.name = some kind ∧ kind.name ≠ "license" := by decide
  obtain ⟨hSpace, form, hForm, hChildAccepts⟩ :=
    hAccepts.admits.children child hChild
  refine ⟨hSpace, ?_⟩
  -- The root lists the kinds of the edition, and licences after them.
  rcases List.mem_append.mp (Content.mem_of_formOf? hForm) with hPackage | hLicense
  · obtain ⟨kind, hKind, hSame⟩ := List.mem_map.mp hPackage
    obtain ⟨hLabel, rfl⟩ := Prod.mk.inj hSame
    obtain ⟨hKnown, hOther⟩ := hTable edition hPublished kind hKind
    exact Or.inr ⟨kind, hLabel.symm, hOther, hLabel ▸ hKnown, hChildAccepts⟩
  · exact Or.inl (Prod.mk.inj (List.mem_singleton.mp hLicense)).1

/-- What the child of a valid document makes: the package that it describes if it can be read, and
otherwise a fault with its name. -/
inductive Makes (edition : Edition) (licenses : Licenses) (sourceUrl : String) (child : Tree) :
    Entry → Prop where
  | found {kind : Kind} {package : Package} (hLabel : child.name.label = kind.name)
      (hReadable : IsReadable kind edition.space child)
      (hPackage : ofElement edition.kind edition.space licenses sourceUrl child = .ok (some package)) :
      Makes edition licenses sourceUrl child (.found package)
  | faulty {kind : Kind} {fault : Fault} (hLabel : child.name.label = kind.name)
      (hFlawed : ¬IsReadable kind edition.space child) :
      Makes edition licenses sourceUrl child (.faulty child.name.label fault)

/-- A child of a valid document makes one entry, unless it is a licence. -/
theorem ofChild?_makes {root child : Tree} (licenses : Licenses) (sourceUrl : String)
    (hPublished : edition ∈ Edition.published) (hAccepts : edition.Accepts .index root)
    (hChild : child ∈ root.children) :
    if child.name.label = "license" then
      Entry.ofChild? edition.kind edition.space licenses sourceUrl child = none
    else ∃ entry, Entry.ofChild? edition.kind edition.space licenses sourceUrl child = some entry ∧
      Makes edition licenses sourceUrl child entry := by
  obtain ⟨hSpace, hLicense | ⟨kind, hLabel, hOther, hKind, hPackage⟩⟩ :=
    accepts_child hPublished hAccepts hChild
  · have hNone : ofElement edition.kind edition.space licenses sourceUrl child = .ok none := by
      rw [ofElement, hLicense]
      rfl
    rw [if_pos hLicense, Entry.ofChild?, hSpace, hNone]
    simp
  · have hReads := isOk_ofElementOfKind licenses sourceUrl hPublished hPackage
    rw [if_neg (hLabel ▸ hOther)]
    cases hRead : ofElementOfKind kind child edition.space licenses sourceUrl with
    | ok package =>
        rw [hRead] at hReads
        have hElement : ofElement edition.kind edition.space licenses sourceUrl child =
            .ok (some package) := by
          simp only [ofElement, hKind, hRead]
        refine ⟨.found package, ?_, .found hLabel (hReads.mp rfl) hElement⟩
        simp [Entry.ofChild?, hSpace, hElement]
    | error fault =>
        rw [hRead] at hReads
        have hElement : ofElement edition.kind edition.space licenses sourceUrl child =
            .error (kind.name, fault) := by
          simp only [ofElement, hKind, hRead]
        refine ⟨.faulty child.name.label fault, ?_, .faulty hLabel fun hReadable => ?_⟩
        · simp [Entry.ofChild?, hSpace, hElement]
        · cases hReads.mpr hReadable

/-- The entries of the children of an accepted document, apart from the licences, in their order. -/
theorem filterMap_makes {licenses : Licenses} {sourceUrl : String} {children : List Tree}
    (hMakes : ∀ child ∈ children, if child.name.label = "license" then
        Entry.ofChild? edition.kind edition.space licenses sourceUrl child = none
      else ∃ entry, Entry.ofChild? edition.kind edition.space licenses sourceUrl child = some entry ∧
        Makes edition licenses sourceUrl child entry) :
    List.Forall₂ (Makes edition licenses sourceUrl)
      (children.filter fun child => child.name.label != "license")
      (children.filterMap (Entry.ofChild? edition.kind edition.space licenses sourceUrl)) := by
  induction children with
  | nil => exact .nil
  | cons child rest ih =>
      obtain ⟨hFirst, hRest⟩ := List.forall_mem_cons.mp hMakes
      split at hFirst
      · rename_i hLicense
        rw [List.filter_cons_of_neg (by simp [hLicense]), List.filterMap_cons_none hFirst]
        exact ih hRest
      · rename_i hOther
        obtain ⟨entry, hEntry, hMade⟩ := hFirst
        rw [List.filter_cons_of_pos (by simp [hOther]), List.filterMap_cons_some hEntry]
        exact .cons hMade (ih hRest)

/-- A document with the root of its edition is an index. -/
theorem ofDocument_of_root {root : Tree} (sourceUrl : String)
    (hPublished : edition ∈ Edition.published)
    (hName : root.name = ⟨edition.space, edition.kind.family.root⟩) :
    Index.ofDocument edition.kind edition.space sourceUrl root =
      { packages := some (sorted ((entries edition.kind edition.space sourceUrl root).filterMap
          Entry.package?))
        reports := (entries edition.kind edition.space sourceUrl root).map Entry.report
        warnings := (entries edition.kind edition.space sourceUrl root).filterMap
          Entry.complaint? } := by
  have hSpaces : ∀ edition ∈ Edition.published, edition.space.isEmpty = false := by decide
  have hNamed : isNamed root edition.space edition.kind.family.root = true := by
    rw [isNamed, hName, hSpaces edition hPublished]
    exact beq_self_eq_true _
  rw [Index.ofDocument, if_pos hNamed]

/-- Every child of a valid document apart from its licences makes one entry: its package, or a report
of the fault in it. It is at fault just where a text that its kind needs is blank, or an integer that
is read from it has too many digits. -/
theorem valid_index_complete {validator : Validator} {url : String} {bytes : List UInt8}
    (sourceUrl : String) (hPasses : validator.Passes edition url bytes)
    (hAgree : ReadersAgree bytes) :
    ∃ root entries packages, Xml.read bytes = .ok root ∧
      List.Forall₂ (Makes edition (licensesOf root edition.space) sourceUrl)
        (root.children.filter fun child => child.name.label != "license") entries ∧
      packages.Perm (entries.filterMap Entry.package?) ∧
      Index.ofDocument edition.kind edition.space sourceUrl root =
        { packages := some packages
          reports := entries.map Entry.report
          warnings := entries.filterMap Entry.complaint? } := by
  obtain ⟨hPublished, root, hRead, hName, hAccepts⟩ := hPasses.exists_root hAgree
  have hMakes := filterMap_makes fun child hChild =>
    ofChild?_makes (licensesOf root edition.space) sourceUrl hPublished hAccepts hChild
  exact ⟨root, _, _, hRead, hMakes, List.mergeSort_perm _ _,
    ofDocument_of_root sourceUrl hPublished hName⟩

theorem toolIndex_passes :
    Validator.standard.Passes ⟨.repository, 3⟩ "https://sdk.test/repository.xml" Load.toolIndex :=
  ⟨{ isValid := true, space := some (Edition.space ⟨.repository, 3⟩) }, by decide +kernel, rfl⟩

theorem toolIndex_readersAgree : ReadersAgree Load.toolIndex := by
  unfold ReadersAgree
  decide +kernel

/-- The one child of the index of the tools makes one entry. -/
theorem toolIndex_complete :
    Validator.standard.Passes ⟨.repository, 3⟩ "https://sdk.test/repository.xml" Load.toolIndex ∧
    ReadersAgree Load.toolIndex ∧
    ∃ root entries packages, Xml.read Load.toolIndex = .ok root ∧
      List.Forall₂ (Makes ⟨.repository, 3⟩ (licensesOf root (Edition.space ⟨.repository, 3⟩)) "a")
        (root.children.filter fun child => child.name.label != "license") entries ∧
      packages.Perm (entries.filterMap Entry.package?) ∧
      Index.ofDocument .repository (Edition.space ⟨.repository, 3⟩) "a" root =
        { packages := some packages
          reports := entries.map Entry.report
          warnings := entries.filterMap Entry.complaint? } :=
  ⟨toolIndex_passes, toolIndex_readersAgree,
    valid_index_complete "a" toolIndex_passes toolIndex_readersAgree⟩

end SdkFeed.Package
