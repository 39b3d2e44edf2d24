import SdkFeed.Proofs.Package.Reading
import SdkFeed.Proofs.Xml.Renaming

/-! What a package is read from. The reader of a kind of packages looks at the texts of certain children,
at the archives, and at the name of the licence; elements that are alike in these are read alike,
whatever else they hold and in whichever namespaces they are. -/
namespace SdkFeed.Package

open SdkFeed.Xml

/-- The children whose texts are read for every package. -/
def commonLabels : List String :=
  ["revision", "description", "desc-url", "release-note", "release-url"]

/-- The children whose texts are read for packages of one kind alone. -/
def Kind.ownLabels : Kind → List String
  | .platform => ["version", "api-level", "codename", "min-tools-rev"]
  | .addon => ["name", "vendor", "api-level", "codename"]
  | .sample => ["api-level", "codename", "min-tools-rev"]
  | .doc => ["api-level", "codename"]
  | .tool => ["min-platform-tools-rev"]
  | .platformTool => []
  | .extra => ["vendor", "path", "min-tools-rev"]

/-- The name of the licence that an element refers to. -/
def licenseRefOf (element : Tree) (space : String) : Option String :=
  (childNamed? element space "uses-license").bind (plainAttribute? · "ref")

variable {element other : Tree} {space otherSpace label : String} {kind : Kind}

/-- Two elements are alike in all that is read for a package of a kind. -/
structure IsReadLike (kind : Kind) (element : Tree) (space : String) (other : Tree)
    (otherSpace : String) : Prop where
  texts : ∀ label ∈ commonLabels ++ kind.ownLabels,
    textOf element space label = textOf other otherSpace label
  archives : archivesOf element space = archivesOf other otherSpace
  libraries : kind = .addon → librariesOf element space = librariesOf other otherSpace
  licenseRef : licenseRefOf element space = licenseRefOf other otherSpace
  obsolete : (childNamed? element space "obsolete").isSome =
    (childNamed? other otherSpace "obsolete").isSome

theorem variantOf_congr
    (hTexts : ∀ label ∈ kind.ownLabels, textOf element space label = textOf other otherSpace label)
    (libraries : List Library) :
    variantOf element space libraries kind = variantOf other otherSpace libraries kind := by
  cases kind with
  | platformTool => rfl
  | platform | addon | sample | doc | tool | extra =>
      simp only [Kind.ownLabels, List.forall_mem_cons] at hTexts
      simp only [variantOf, requiredInteger, requiredText, optionalInteger, hTexts]

theorem ofElementOfKind_congr (hLike : IsReadLike kind element space other otherSpace)
    {licenses otherLicenses : Licenses} (sourceUrl : String)
    (hLicense : licenseOf licenses (licenseRefOf other otherSpace) =
      licenseOf otherLicenses (licenseRefOf other otherSpace)) :
    ofElementOfKind kind element space licenses sourceUrl =
      ofElementOfKind kind other otherSpace otherLicenses sourceUrl := by
  obtain ⟨hTexts, hArchives, hLibraries, hRef, hObsolete⟩ := hLike
  have hCommon : ∀ label ∈ commonLabels, textOf element space label = textOf other otherSpace label :=
    fun label hLabel => hTexts label (List.mem_append_left _ hLabel)
  have hOwn := variantOf_congr fun label hLabel => hTexts label (List.mem_append_right _ hLabel)
  simp only [commonLabels, List.forall_mem_cons] at hCommon
  have hFields (variant : Except Fault Variant) :
      withCommon element space licenses sourceUrl variant =
        withCommon other otherSpace otherLicenses sourceUrl variant := by
    rw [licenseRefOf, licenseRefOf] at hRef
    rw [licenseRefOf] at hLicense
    simp only [withCommon, requiredInteger, requiredText, hCommon, hArchives, hRef, hLicense, hObsolete]
  simp only [ofElementOfKind, hFields, hOwn]
  split
  · rename_i hAddon
    rw [hLibraries hAddon]
  · rfl

/-- A change of the trees of a sort, the sort of all their children, that the readers do not notice when
they look for the elements in another namespace. -/
structure IsUnnoticed (change : Tree → Tree) (sort : Tree → Prop) (source target : String) : Prop where
  keepsContent : Element.KeepsContent change
  inside : ∀ {element child}, sort element → child ∈ element.children → sort child
  childrenNamed : ∀ {element}, sort element → ∀ label,
    childrenNamed (change element) target label = (childrenNamed element source label).map change

namespace IsUnnoticed

variable {change : Tree → Tree} {sort : Tree → Prop} {source target : String}
  (hChange : IsUnnoticed change sort source target)

include hChange

theorem trimmedText (element : Tree) : trimmedText (change element) = Package.trimmedText element := by
  rw [Package.trimmedText, hChange.keepsContent.text?, Package.trimmedText]

theorem plainAttribute? (element : Tree) (label : String) :
    plainAttribute? (change element) label = Package.plainAttribute? element label :=
  hChange.keepsContent.attribute? _

theorem map_trimmedText (found : Option Tree) :
    (found.map change).map Package.trimmedText = found.map Package.trimmedText := by
  cases found with
  | none => rfl
  | some child => exact congrArg some (hChange.trimmedText child)

theorem bind_plainAttribute? (found : Option Tree) (label : String) :
    (found.map change).bind (Package.plainAttribute? · label) =
      found.bind (Package.plainAttribute? · label) := by
  cases found with
  | none => rfl
  | some child => exact hChange.plainAttribute? child label

variable (hSort : sort element)

include hSort

theorem childNamed? (label : String) :
    childNamed? (change element) target label = (childNamed? element source label).map change := by
  rw [Package.childNamed?, hChange.childrenNamed hSort, List.head?_map, Package.childNamed?]

theorem of_mem {child : Tree} (hChild : child ∈ Package.childrenNamed element source label) :
    sort child :=
  hChange.inside hSort (List.mem_filter.mp hChild).1

theorem textOf (label : String) : textOf (change element) target label =
    Package.textOf element source label := by
  rw [Package.textOf, hChange.childNamed? hSort, hChange.map_trimmedText, Package.textOf]

theorem archive : Archive.ofElement target (change element) = Archive.ofElement source element := by
  simp only [Archive.ofElement, requiredText, optionalInteger, hChange.childNamed? hSort,
    hChange.textOf hSort, hChange.map_trimmedText, hChange.bind_plainAttribute?,
    hChange.plainAttribute?]

theorem archivesOf : archivesOf (change element) target = Package.archivesOf element source := by
  rw [Package.archivesOf, hChange.childNamed? hSort, Package.archivesOf]
  cases hList : Package.childNamed? element source "archives" with
  | none => rfl
  | some list =>
      have hListSort := hChange.of_mem hSort (List.mem_of_head? hList)
      simp only [Option.map_some]
      rw [hChange.childrenNamed hListSort, List.mapM_map]
      apply mapM_congr_of_mem
      intro archive hArchive
      exact hChange.archive (hChange.of_mem hListSort hArchive)

theorem librariesOf : librariesOf (change element) target = Package.librariesOf element source := by
  rw [Package.librariesOf, hChange.childNamed? hSort, Package.librariesOf]
  cases hList : Package.childNamed? element source "libs" with
  | none => rfl
  | some list =>
      have hListSort := hChange.of_mem hSort (List.mem_of_head? hList)
      simp only [Option.map_some]
      rw [hChange.childrenNamed hListSort, List.mapM_map]
      apply mapM_congr_of_mem
      intro library hLibrary
      have hLibrarySort := hChange.of_mem hListSort hLibrary
      simp only [Function.comp, requiredText, hChange.textOf hLibrarySort]

theorem isReadLike (kind : Kind) : IsReadLike kind (change element) target element source where
  texts label _ := hChange.textOf hSort label
  archives := hChange.archivesOf hSort
  libraries _ := hChange.librariesOf hSort
  licenseRef := by
    rw [licenseRefOf, hChange.childNamed? hSort, hChange.bind_plainAttribute?, licenseRefOf]
  obsolete := by rw [hChange.childNamed? hSort, Option.isSome_map]

/-- An element of the sort is read as before. -/
theorem ofElement (hLabel : (change element).name.label = element.name.label) (kind : Feed.Kind)
    (licenses : Licenses) (sourceUrl : String) :
    ofElement kind target licenses sourceUrl (change element) =
      Package.ofElement kind source licenses sourceUrl element := by
  rw [Package.ofElement, Package.ofElement, hLabel]
  split
  · rfl
  · rename_i own _
    rw [ofElementOfKind_congr (hChange.isReadLike hSort own) sourceUrl rfl]

end IsUnnoticed

end SdkFeed.Package
