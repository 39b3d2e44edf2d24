import SdkFeed.Proofs.Package.Completeness
import SdkFeed.Proofs.Schema.Attribute

/-! What an archive declares: the systems and architectures that it is for, and the kind of its
checksum. The schema looks at these attributes with their white space collapsed, the reader of packages
takes them as they are written. So an archive says what the schema lets it say just where no attribute
is written with white space around its value. -/
namespace SdkFeed.Package

open SdkFeed.Schema SdkFeed.Xml SdkFeed.Text

/-- The systems that archives may be for. -/
def systems : List String :=
  ["any", "linux", "macosx", "windows"]

/-- The architectures that archives may be for. -/
def architectures : List String :=
  ["any", "ppc", "x86", "x86_64"]

/-- A value without white space to collapse. -/
def IsTidy (value : String) : Prop :=
  collapsed value = value

namespace Archive

/-- What is read for an archive from the attributes of its element: their raw values. -/
structure IsWritten (space : String) (element : Tree) (archive : Archive) : Prop where
  os : plainAttribute? element "os" = some archive.os
  arch : (plainAttribute? element "arch").getD "any" = archive.arch
  checksumType : ∃ checksum, childNamed? element space "checksum" = some checksum ∧
    plainAttribute? checksum "type" = some archive.checksumType

/-- The collapsed values are those that the schema allows. -/
structure IsDeclared (archive : Archive) : Prop where
  os : collapsed archive.os ∈ systems
  arch : collapsed archive.arch ∈ architectures
  checksumType : collapsed archive.checksumType = "sha1"

/-- The values themselves are those that the schema allows. -/
structure IsPlain (archive : Archive) : Prop where
  os : archive.os ∈ systems
  arch : archive.arch ∈ architectures
  checksumType : archive.checksumType = "sha1"

variable {edition : Edition} {kind : Kind} {element : Tree} {archive : Archive} {space : String}

theorem isWritten_of_ofElement (hAccepts : edition.Accepts .archive element)
    (hRead : ofElement edition.space element = .ok archive) :
    archive.IsWritten edition.space element := by
  obtain ⟨url, _, hRest⟩ := bind_eq_ok.mp hRead
  obtain ⟨size, _, hFields⟩ := bind_eq_ok.mp hRest
  cases hFields
  have hRequired : (edition.content .archive).requires "checksum" = true := rfl
  obtain ⟨checksum, hChecksum⟩ := childNamed?_of_requires hAccepts hRequired
  obtain ⟨form, hForm, hChecksumAccepts⟩ := accepts_of_childNamed? hAccepts hChecksum
  cases hForm
  obtain ⟨os, hOs⟩ := hAccepts.exists_attribute List.mem_cons_self rfl
  obtain ⟨type, hType⟩ := hChecksumAccepts.exists_attribute List.mem_cons_self rfl
  constructor
  · change plainAttribute? element "os" = some ((plainAttribute? element "os").getD "any")
    rw [show plainAttribute? element "os" = some os from hOs]
    rfl
  · rfl
  · refine ⟨checksum, hChecksum, ?_⟩
    change plainAttribute? checksum "type" = some type at hType
    change plainAttribute? checksum "type" = some
      (((childNamed? element edition.space "checksum").bind (plainAttribute? · "type")).getD "sha1")
    rw [hChecksum, Option.bind_some, hType]
    rfl

/-- The schema allows what is read for an archive, once it is collapsed. -/
theorem IsWritten.isDeclared (hWritten : archive.IsWritten edition.space element)
    (hAccepts : edition.Accepts .archive element) : archive.IsDeclared := by
  obtain ⟨checksum, hChecksum, hType⟩ := hWritten.checksumType
  obtain ⟨form, hForm, hChecksumAccepts⟩ := accepts_of_childNamed? hAccepts hChecksum
  cases hForm
  constructor
  · exact hAccepts.attribute_fits rfl hWritten.os
  · rw [← hWritten.arch]
    cases hArch : plainAttribute? element "arch" with
    | none => decide
    | some arch => exact hAccepts.attribute_fits rfl hArch
  · have hRule : Form.checksum.attributes.find? (·.label == "type") =
        some ⟨"type", true, .oneOf ["sha1"]⟩ := rfl
    exact List.mem_singleton.mp (hChecksumAccepts.attribute_fits hRule hType)

/-- All that the schema allows is without white space. -/
theorem isTidy_of_mem {value : String} {choices : List String}
    (hChoices : ∀ choice ∈ choices, collapsed choice = choice)
    (hCollapsed : collapsed value ∈ choices) : value ∈ choices ↔ IsTidy value := by
  constructor
  · intro hValue
    exact hChoices value hValue
  · intro hTidy
    rw [← hTidy]
    exact hCollapsed

theorem systems_isTidy : ∀ system ∈ systems, collapsed system = system := by
  decide

theorem architectures_isTidy : ∀ architecture ∈ architectures,
    collapsed architecture = architecture := by
  decide

/-- The values of an archive are plain just where all of them are tidy. -/
theorem IsDeclared.isPlain_iff (hDeclared : archive.IsDeclared) : archive.IsPlain ↔
    IsTidy archive.os ∧ IsTidy archive.arch ∧ IsTidy archive.checksumType := by
  have hOs := isTidy_of_mem systems_isTidy hDeclared.os
  have hArch := isTidy_of_mem architectures_isTidy hDeclared.arch
  constructor
  · intro hPlain
    refine ⟨hOs.mp hPlain.os, hArch.mp hPlain.arch, ?_⟩
    rw [IsTidy, hDeclared.checksumType, hPlain.checksumType]
  · rintro ⟨hOsTidy, hArchTidy, hTypeTidy⟩
    refine ⟨hOs.mpr hOsTidy, hArch.mpr hArchTidy, ?_⟩
    rw [← hTypeTidy, hDeclared.checksumType]

/-- An archive can be installed on the system that it is declared for just where the system is written
without white space. -/
theorem isCompatible_declared : archive.isCompatible (collapsed archive.os) "any" = true ↔
    IsTidy archive.os := by
  have hAsked : archive.isCompatible (collapsed archive.os) "any" = true ↔
      archive.os = "any" ∨ archive.os = collapsed archive.os := by
    simp [isCompatible]
  rw [hAsked, IsTidy]
  constructor
  · rintro (hAny | hSame)
    · rw [hAny]
      decide
    · exact hSame.symm
  · intro hTidy
    exact Or.inr hTidy.symm

end Archive

variable {edition : Edition} {kind : Kind} {element : Tree} {package : Package}

/-- What the archive of a valid document says: it has the raw values of the attributes of its element.
Collapsed, these are the values that the schema allows; so the values themselves are, and the archive
can be installed on the system that it is declared for, just where there is no white space to
collapse. -/
structure Archive.IsFaithful (space : String) (element : Tree) (archive : Archive) : Prop where
  written : archive.IsWritten space element
  declared : archive.IsDeclared
  plain : archive.IsPlain ↔ IsTidy archive.os ∧ IsTidy archive.arch ∧ IsTidy archive.checksumType
  compatible : archive.isCompatible (collapsed archive.os) "any" = true ↔ IsTidy archive.os

/-- The archives of a package are read from the elements of its list of archives, one from each. -/
theorem archives_isFaithful {archives : List Archive} (hPublished : edition ∈ Edition.published)
    (hAccepts : edition.Accepts (.package kind) element)
    (hRead : archivesOf element edition.space = .ok archives) :
    ∃ list, childNamed? element edition.space "archives" = some list ∧
      List.Forall₂ (Archive.IsFaithful edition.space) (childrenNamed list edition.space "archive")
        archives := by
  have hRequired : ∀ edition ∈ Edition.published, ∀ kind ∈ Kind.all,
      (edition.content (.package kind)).requires "archives" = true := by decide
  obtain ⟨list, hList⟩ :=
    childNamed?_of_requires hAccepts (hRequired edition hPublished kind kind.mem_all)
  have hListAccepts := accepts_archives hPublished hAccepts hList
  refine ⟨list, hList, ?_⟩
  rw [archivesOf, hList] at hRead
  have hPairs := (List.forall₂_and_left _ _).mpr
    ⟨fun child hChild => accepts_archive hListAccepts hChild, mapM_eq_ok.mp hRead⟩
  apply hPairs.imp
  rintro child archive ⟨hChildAccepts, hChildRead⟩
  have hWritten := Archive.isWritten_of_ofElement hChildAccepts hChildRead
  have hDeclared := hWritten.isDeclared hChildAccepts
  exact ⟨hWritten, hDeclared, hDeclared.isPlain_iff, Archive.isCompatible_declared⟩

/-- Every archive of a valid document says what its element says: its system, its architecture and the
kind of its checksum are those that the schema allows, but for the white space around them. -/
theorem valid_archives_faithful {validator : Validator} {url : String} {bytes : List UInt8}
    (sourceUrl : String) (hPasses : validator.Passes edition url bytes)
    (hAgree : ReadersAgree bytes) :
    ∃ root packages, Xml.read bytes = .ok root ∧
      (Index.ofDocument edition.kind edition.space sourceUrl root).packages = some packages ∧
      ∀ package ∈ packages, ∃ element ∈ root.children, ∃ list,
        ofElement edition.kind edition.space (licensesOf root edition.space) sourceUrl element =
          .ok (some package) ∧
        childNamed? element edition.space "archives" = some list ∧
        List.Forall₂ (Archive.IsFaithful edition.space)
          (childrenNamed list edition.space "archive") package.archives := by
  obtain ⟨hPublished, root, hRead, hName, hAccepts⟩ := hPasses.exists_root hAgree
  have hIndex := ofDocument_of_root sourceUrl hPublished hName
  refine ⟨root, _, hRead, congrArg Index.packages hIndex, ?_⟩
  intro package hPackage
  obtain ⟨child, hChild, _, hMade⟩ := exists_child (List.mem_mergeSort.mp hPackage)
  obtain ⟨kind, libraries, hKind, hPackageRead⟩ := isRead_of_ofElement hMade
  obtain ⟨_, hLicense | ⟨other, _, _, hOther, hChildAccepts⟩⟩ :=
    accepts_child hPublished hAccepts hChild
  · rw [hLicense] at hKind
    cases hKind
  · obtain ⟨list, hList, hPairs⟩ :=
      archives_isFaithful hPublished hChildAccepts hPackageRead.archives
    exact ⟨child, hChild, list, hMade, hList, hPairs⟩

/-- The archive of the index of the tools is declared for any system. -/
theorem toolIndex_archives_faithful :
    Validator.standard.Passes ⟨.repository, 3⟩ "https://sdk.test/repository.xml" Load.toolIndex ∧
    ReadersAgree Load.toolIndex ∧
    ∃ root packages, Xml.read Load.toolIndex = .ok root ∧
      (Index.ofDocument .repository (Edition.space ⟨.repository, 3⟩) "a" root).packages =
        some packages ∧
      ∀ package ∈ packages, ∃ element ∈ root.children, ∃ list,
        ofElement .repository (Edition.space ⟨.repository, 3⟩)
            (licensesOf root (Edition.space ⟨.repository, 3⟩)) "a" element = .ok (some package) ∧
        childNamed? element (Edition.space ⟨.repository, 3⟩) "archives" = some list ∧
        List.Forall₂ (Archive.IsFaithful (Edition.space ⟨.repository, 3⟩))
          (childrenNamed list (Edition.space ⟨.repository, 3⟩) "archive") package.archives :=
  ⟨toolIndex_passes, toolIndex_readersAgree,
    valid_archives_faithful "a" toolIndex_passes toolIndex_readersAgree⟩

/-- An index of the newest version with one package, tools with an archive for a system, with a checksum
of a type. -/
def indexOfArchive (os checksumType : List Char) : List Char :=
  Load.indexTag ++
  ['>', '<', 't', 'o', 'o', 'l', '>', '<', 'r', 'e', 'v', 'i', 's', 'i', 'o', 'n', '>', '1', '<',
   '/', 'r', 'e', 'v', 'i', 's', 'i', 'o', 'n', '>', '<', 'a', 'r', 'c', 'h', 'i', 'v', 'e', 's',
   '>', '<', 'a', 'r', 'c', 'h', 'i', 'v', 'e', ' ', 'o', 's', '=', '"'] ++ os ++
  ['"', '>', '<', 's', 'i', 'z', 'e', '>', '1', '<', '/', 's', 'i', 'z', 'e', '>', '<', 'c', 'h',
   'e', 'c', 'k', 's', 'u', 'm', ' ', 't', 'y', 'p', 'e', '=', '"'] ++ checksumType ++
  ['"', '>', '0', '1', '2', '3', '4', '5', '6', '7', '8', '9', '0', '1', '2', '3', '4', '5', '6',
   '7', '8', '9', '0', '1', '2', '3', '4', '5', '6', '7', '8', '9', '0', '1', '2', '3', '4', '5',
   '6', '7', '8', '9', '<', '/', 'c', 'h', 'e', 'c', 'k', 's', 'u', 'm', '>', '<', 'u', 'r', 'l',
   '>', 'a', '<', '/', 'u', 'r', 'l', '>', '<', '/', 'a', 'r', 'c', 'h', 'i', 'v', 'e', '>', '<',
   '/', 'a', 'r', 'c', 'h', 'i', 'v', 'e', 's', '>', '<', '/', 't', 'o', 'o', 'l', '>', '<', '/',
   's', 'd', 'k', '-', 'r', 'e', 'p', 'o', 's', 'i', 't', 'o', 'r', 'y', '>']

/-- An index with blanks around the system of its archive, and before the type of its checksum. -/
def spacedIndex : List UInt8 :=
  Load.asciiBytes (indexOfArchive [' ', 'l', 'i', 'n', 'u', 'x', ' '] [' ', 's', 'h', 'a', '1'])

/-- An index with a document type that gives archives another architecture by default:
`<!DOCTYPE sdk-repository [<!ATTLIST archive arch CDATA "sparc">]>`. -/
def defaultedIndex : List UInt8 :=
  Load.asciiBytes
    (['<', '!', 'D', 'O', 'C', 'T', 'Y', 'P', 'E', ' ', 's', 'd', 'k', '-', 'r', 'e', 'p', 'o', 's',
      'i', 't', 'o', 'r', 'y', ' ', '[', '<', '!', 'A', 'T', 'T', 'L', 'I', 'S', 'T', ' ', 'a', 'r',
      'c', 'h', 'i', 'v', 'e', ' ', 'a', 'r', 'c', 'h', ' ', 'C', 'D', 'A', 'T', 'A', ' ', '"', 's',
      'p', 'a', 'r', 'c', '"', '>', ']', '>'] ++
      indexOfArchive ['l', 'i', 'n', 'u', 'x'] ['s', 'h', 'a', '1'])

/-- The archives that an index of the newest version of the repository lists. -/
def listedArchives (bytes : List UInt8) : Option (List Archive) :=
  (Xml.read bytes).toOption.bind fun root =>
    (Index.ofDocument .repository (Edition.space ⟨.repository, 3⟩) "a" root).packages.map
      (·.flatMap Package.archives)

/-- Archives of valid documents that are not for a system, an architecture or a checksum that the schema
knows. The first cannot be installed on the system that it is declared for; the second has an
architecture that the schema did not see. -/
theorem spaced_archive_unfit :
    (Validator.standard.Passes ⟨.repository, 3⟩ "https://sdk.test/repository.xml" spacedIndex ∧
      ReadersAgree spacedIndex ∧
      ∃ archive, listedArchives spacedIndex = some [archive] ∧
        archive.os ∉ systems ∧ archive.checksumType ≠ "sha1" ∧
        archive.isCompatible "linux" "any" = false) ∧
    (Validator.standard.Passes ⟨.repository, 3⟩ "https://sdk.test/repository.xml" defaultedIndex ∧
      ∃ archive, listedArchives defaultedIndex = some [archive] ∧ archive.arch ∉ architectures) := by
  have hSpaced : listedArchives spacedIndex = some [{
      url := "a"
      size := 1
      checksum := "0123456789012345678901234567890123456789"
      checksumType := " sha1"
      os := " linux " }] := by decide +kernel
  have hDefaulted : listedArchives defaultedIndex = some [{
      url := "a"
      size := 1
      checksum := "0123456789012345678901234567890123456789"
      os := "linux"
      arch := "sparc" }] := by decide +kernel
  refine ⟨⟨?_, ?_, _, hSpaced, ?_⟩, ?_, _, hDefaulted, ?_⟩
  · exact ⟨{ isValid := true, space := some (Edition.space ⟨.repository, 3⟩) }, by decide +kernel, rfl⟩
  · unfold ReadersAgree
    decide +kernel
  · decide
  · exact ⟨{ isValid := true, space := some (Edition.space ⟨.repository, 3⟩) }, by decide +kernel, rfl⟩
  · decide

end SdkFeed.Package
