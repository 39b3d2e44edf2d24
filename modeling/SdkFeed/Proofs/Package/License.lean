import SdkFeed.Proofs.Package.Salvaging

/-! Which text a package has for its licence when several licences go by one name. The reader takes the
last of them. Salvaging copies each licence to the front, so there the reader takes what was the
first. -/
namespace SdkFeed.Package

open SdkFeed.Xml

/-- The texts of the licences with a name, in document order. -/
def declaredTexts (root : Tree) (space name : String) : List String :=
  root.children.filterMap fun child =>
    if isNamed child space "license" && plainAttribute? child "id" == some name then
      some child.innerText
    else none

/-- The texts that a reference may stand for. One without a name stands for none. -/
def textsFor (root : Tree) (space : String) : Option String → List String
  | none => []
  | some name => if name.isEmpty then [] else declaredTexts root space name

theorem lookup_eq_head? {α : Type} (items : List (String × α)) (key : String) :
    items.lookup key = ((items.filter (·.1 == key)).map Prod.snd).head? := by
  induction items with
  | nil => rfl
  | cons item items ih =>
      rw [List.lookup_cons]
      by_cases hKey : item.1 = key
      · simp [hKey]
      · have hOther : (key == item.1) = false := by simpa using Ne.symm hKey
        rw [hOther, ih]
        simp [hKey]

theorem lookup_filter {α : Type} {keeps : String → Bool} {key : String} (hKeeps : keeps key = true)
    (items : List (String × α)) :
    (items.filter fun item => keeps item.1).lookup key = items.lookup key := by
  rw [lookup_eq_head?, List.filter_filter, lookup_eq_head?]
  congr 2
  apply List.filter_congr
  intro item _
  by_cases hKey : item.1 = key
  · simp [hKey, hKeeps]
  · simp [hKey]

variable {kind : Kind} {element child root : Tree} {space sourceUrl : String} {licenses : Licenses}
  {package : Package} {ref : Option String}

theorem declaredTexts_eq (name : String) : declaredTexts root space name =
    (((licensesOf root space).reverse.filter (·.1 == name)).map Prod.snd) := by
  rw [licensesOf, List.reverse_reverse, List.filter_filterMap, List.map_filterMap, declaredTexts]
  apply List.filterMap_congr
  intro child _
  by_cases hNamed : isNamed child space "license" = true
  · cases hId : plainAttribute? child "id" with
    | none => simp [hNamed]
    | some other => by_cases hSame : other = name <;> simp [hNamed, hSame, Option.filter]
  · simp [hNamed]

theorem licenseOf_licensesOf : licenseOf (licensesOf root space) ref =
    (textsFor root space ref).getLast? := by
  cases ref with
  | none => rfl
  | some name =>
      by_cases hName : name.isEmpty = true
      · simp [licenseOf, textsFor, hName]
      · rw [licenseOf, textsFor, if_neg hName, if_neg hName, declaredTexts_eq, lookup_eq_head?,
          List.filter_reverse, List.map_reverse, List.getLast?_reverse]

theorem licenseOf_reverse : licenseOf (licensesOf root space).reverse ref =
    (textsFor root space ref).head? := by
  cases ref with
  | none => rfl
  | some name =>
      by_cases hName : name.isEmpty = true
      · simp [licenseOf, textsFor, hName]
      · rw [licenseOf, textsFor, if_neg hName, if_neg hName, declaredTexts_eq, lookup_eq_head?]

/-- The same package under other licences. -/
def underLicenses (licenses : Licenses) (package : Package) : Package :=
  { package with license := licenseOf licenses package.licenseRef }

theorem withCommon_underLicenses {variant : Except Fault Variant}
    (hPackage : withCommon element space licenses sourceUrl variant = .ok package)
    (others : Licenses) :
    withCommon element space others sourceUrl variant = .ok (underLicenses others package) ∧
      package.licenseRef = licenseRefOf element space ∧
      package.license = licenseOf licenses package.licenseRef := by
  obtain ⟨revision, hRevision, hRest⟩ := bind_eq_ok.mp hPackage
  obtain ⟨archives, hArchives, hRest⟩ := bind_eq_ok.mp hRest
  obtain ⟨own, hOwn, hFields⟩ := bind_eq_ok.mp hRest
  obtain rfl := Except.ok.inj hFields
  refine ⟨?_, rfl, rfl⟩
  rw [withCommon, hRevision, hArchives, hOwn]
  rfl

/-- The licences of a document matter to a package for the text of its own licence alone. -/
theorem ofElementOfKind_underLicenses
    (hPackage : ofElementOfKind kind element space licenses sourceUrl = .ok package)
    (others : Licenses) :
    ofElementOfKind kind element space others sourceUrl = .ok (underLicenses others package) ∧
      package.licenseRef = licenseRefOf element space ∧
      package.license = licenseOf licenses package.licenseRef := by
  rw [ofElementOfKind] at hPackage ⊢
  split
  · rename_i hAddon
    rw [if_pos hAddon] at hPackage
    obtain ⟨libraries, hLibraries, hCommon⟩ := bind_eq_ok.mp hPackage
    obtain ⟨hOthers, hFields⟩ := withCommon_underLicenses hCommon others
    exact ⟨bind_eq_ok.mpr ⟨libraries, hLibraries, hOthers⟩, hFields⟩
  · rename_i hOther
    rw [if_neg hOther] at hPackage
    exact withCommon_underLicenses hPackage others

theorem found?_eq_ok {source : Feed.Kind}
    (hFound : found? source space licenses sourceUrl child = some package) :
    child.name.space = space ∧ kindOf? source child.name.label = some package.kind ∧
      ofElementOfKind package.kind child space licenses sourceUrl = .ok package := by
  obtain ⟨hSpace, hKind⟩ := found?_eq_some hFound
  rw [found?_of_kindOf? hSpace hKind] at hFound
  refine ⟨hSpace, hKind, ?_⟩
  cases hRead : ofElementOfKind package.kind child space licenses sourceUrl with
  | error fault => rw [hRead] at hFound; cases hFound
  | ok other => rw [hRead] at hFound; rw [Option.some.inj hFound]

namespace Salvage

variable {family : Feed.Family} {source target : String} {salvaged tool copy : Tree}

/-- A tool that can be read has an address for each of its archives. -/
theorem hasAddresses_of_ofElementOfKind
    (hPackage : ofElementOfKind kind tool source licenses sourceUrl = .ok package) :
    HasAddresses source tool := by
  obtain ⟨_, hRead⟩ := isRead_of_ofElementOfKind hPackage
  intro list hList archive hArchive
  have hArchives := hRead.archives
  rw [archivesOf, show childNamed? tool source "archives" = some list from hList] at hArchives
  obtain ⟨found, hFound⟩ := isOk_iff.mp (isOk_mapM.mp (isOk_iff.mpr ⟨_, hArchives⟩) archive hArchive)
  obtain ⟨text, hText, _⟩ := bind_eq_ok.mp hFound
  cases hUrl : childNamed? archive source "url" with
  | some child => rfl
  | none =>
      rw [requiredText, textOf, hUrl] at hText
      cases hText

/-- For a licence that is referred to, the copies say what the licence declared first says. -/
theorem licenseOf_salvaged (hTarget : family.latestSpace.isEmpty = false)
    (hSalvage : ofDocument? family root = some salvaged)
    (hUsed : ∀ name, ref = some name → name.isEmpty = false →
      name ∈ usedNames root.name.space family.latestSpace root) :
    licenseOf (licensesOf salvaged family.latestSpace) ref =
      (textsFor root root.name.space ref).head? := by
  rw [← licenseOf_reverse, licensesOf_salvaged hTarget hSalvage]
  cases ref with
  | none => rfl
  | some name =>
      by_cases hName : name.isEmpty = true
      · simp [licenseOf, hName]
      · rw [licenseOf, licenseOf, if_neg hName, if_neg hName]
        exact lookup_filter
          (List.contains_iff_mem.mpr (hUsed name rfl (by simpa using hName))) _

theorem mem_usedNames_of_copy {name : String} (hCopy : copy ∈ tools source target root)
    (hRef : licenseRefOf copy target = some name) (hName : name.isEmpty = false) :
    name ∈ usedNames source target root := by
  refine List.mem_filterMap.mpr ⟨copy, hCopy, ?_⟩
  rw [licenseName?, ← licenseRefOf, hRef, Option.filter_some, hName]
  rfl

/-- What is found in a tool is found in its copy, under the licences there. -/
theorem found?_tool? (hSource : source ≠ anySpace) (hLabel : tool.name.label ∈ toolLabels)
    (hCopy : tool? source target tool = some copy)
    (hFound : found? .repository source licenses sourceUrl tool = some package)
    (others : Licenses) :
    found? .repository target others sourceUrl copy = some (underLicenses others package) := by
  obtain ⟨_, hKind, hRead⟩ := found?_eq_ok hFound
  obtain ⟨kind, hTool, hEither⟩ := exists_kindOf? hLabel
  obtain rfl : kind = package.kind := Option.some.inj (hTool.symm.trans hKind)
  have hName := tool?_name hCopy
  have hLike := isReadLike_tool? hSource (hasAddresses_of_ofElementOfKind hRead) hEither hCopy
  have hCopySpace : copy.name.space = target := by rw [hName]
  have hCopyKind : kindOf? .repository copy.name.label = some package.kind := by rw [hName, hKind]
  rw [found?_of_kindOf? hCopySpace hCopyKind, ofElementOfKind_congr hLike sourceUrl rfl,
    (ofElementOfKind_underLicenses hRead others).1]
  rfl

theorem mem_tools (hTool : tool ∈ root.children) (hSpace : tool.name.space = source)
    (hLabel : tool.name.label ∈ toolLabels) (hCopy : tool? source target tool = some copy) :
    copy ∈ tools source target root :=
  List.mem_filterMap.mpr ⟨tool, List.mem_filter.mpr ⟨hTool, by simp [hSpace, hLabel]⟩, hCopy⟩

/-- The packages of a salvaged document are found in the copies of tools. -/
theorem exists_copy (hSalvage : ofDocument? family root = some salvaged)
    (hChild : child ∈ salvaged.children)
    (hFound : found? .repository family.latestSpace licenses sourceUrl child = some package) :
    child ∈ tools root.name.space family.latestSpace root := by
  obtain ⟨_, _, _, rfl⟩ := ofDocument?_eq_some.mp hSalvage
  rw [build_children] at hChild
  rcases List.mem_append.mp hChild with hLicense | hTool
  · obtain ⟨license, _, hMade⟩ := List.mem_filterMap.mp (List.mem_reverse.mp hLicense)
    rw [found?_license hMade] at hFound
    cases hFound
  · exact hTool

/-- A package of a salvaged document has the text that was declared first. -/
theorem license_of_salvaged (hTarget : family.latestSpace.isEmpty = false)
    (hSalvage : ofDocument? family root = some salvaged)
    (hCopy : copy ∈ tools root.name.space family.latestSpace root)
    (hFound : found? .repository family.latestSpace (licensesOf salvaged family.latestSpace)
      sourceUrl copy = some package) :
    package.license = (textsFor root root.name.space package.licenseRef).head? := by
  obtain ⟨_, _, hRead⟩ := found?_eq_ok hFound
  obtain ⟨_, hRef, hLicense⟩ := ofElementOfKind_underLicenses hRead []
  rw [hLicense]
  apply licenseOf_salvaged hTarget hSalvage
  intro name hName hSome
  exact mem_usedNames_of_copy hCopy (hRef.symm.trans hName) hSome

theorem isNamed_of_salvage
    (hSalvage : ofDocument? Feed.Kind.repository.family root = some salvaged) :
    isNamed root root.name.space Feed.Kind.repository.family.root = true ∧
      isNamed salvaged Feed.Family.repository.latestSpace
        Feed.Kind.repository.family.root = true := by
  obtain ⟨hLabel, hVersion, _, _⟩ := ofDocument?_eq_some.mp hSalvage
  have hFilled : root.name.space.isEmpty = false := by
    by_contra hEmpty
    simp only [Bool.not_eq_false, String.isEmpty_iff] at hEmpty
    rw [hEmpty] at hVersion
    exact absurd hVersion (by decide)
  constructor
  · rw [isNamed, hFilled, ← hLabel]
    simp
  · rw [isNamed, ofDocument?_name hSalvage]
    decide

end Salvage

theorem packages_of_isNamed {source : Feed.Kind} (sourceUrl : String)
    (hNamed : isNamed root space source.family.root = true) :
    (Index.ofDocument source space sourceUrl root).packages =
      some (sorted (root.children.filterMap
        (found? source space (licensesOf root space) sourceUrl))) := by
  rw [Index.ofDocument, if_pos hNamed, ← filterMap_package?]

theorem mem_sorted {packages : List Package} : package ∈ sorted packages ↔ package ∈ packages :=
  (sorted_perm packages).mem_iff

namespace Salvage

variable {salvaged : Tree}

/-- A package has the text that was declared last for its licence, and after salvaging the one that was
declared first. Nothing else changes in a tool of which there is a copy. So it has the text it had
just where the first and the last of the texts are the same. -/
theorem salvage_takes_first_license {bytes : List UInt8} (sourceUrl : String)
    (hRead : Xml.read bytes = .ok root)
    (hSalvage : ofBytes .repository bytes = .ok (some salvaged)) :
    ∃ packages rescued,
      (Index.ofDocument .repository root.name.space sourceUrl root).packages = some packages ∧
      (Index.ofDocument .repository Feed.Family.repository.latestSpace sourceUrl
        salvaged).packages = some rescued ∧
      (∀ package ∈ packages,
        package.license = (textsFor root root.name.space package.licenseRef).getLast?) ∧
      (∀ package ∈ rescued,
        package.license = (textsFor root root.name.space package.licenseRef).head?) ∧
      ∀ tool ∈ root.children, ∀ copy package, tool.name.label ∈ toolLabels →
        tool? root.name.space Feed.Family.repository.latestSpace tool = some copy →
        found? .repository root.name.space (licensesOf root root.name.space) sourceUrl tool =
          some package →
        package ∈ packages ∧ copy ∈ salvaged.children ∧ ∃ other ∈ rescued,
          found? .repository Feed.Family.repository.latestSpace
            (licensesOf salvaged Feed.Family.repository.latestSpace) sourceUrl copy = some other ∧
          other = { package with
            license := (textsFor root root.name.space package.licenseRef).head? } := by
  obtain ⟨_, document, hDocument, hMade⟩ := ofBytes_eq_some hSalvage
  obtain rfl : root = document := Except.ok.inj (hRead.symm.trans hDocument)
  obtain ⟨hRoot, hTarget⟩ := isNamed_of_salvage hMade
  obtain ⟨_, hVersion, _, hBuilt⟩ := ofDocument?_eq_some.mp hMade
  have hSource : root.name.space ≠ anySpace := ne_anySpace_of_version
    (show (Feed.Kind.repository.family.versionDigits? _).isSome = true from hVersion)
  have hFirst {copy : Tree} {package : Package}
      (hCopy : copy ∈ tools root.name.space Feed.Family.repository.latestSpace root)
      (hFound : found? .repository Feed.Family.repository.latestSpace
        (licensesOf salvaged Feed.Family.repository.latestSpace) sourceUrl copy = some package) :
      package.license = (textsFor root root.name.space package.licenseRef).head? :=
    license_of_salvaged (by decide) hMade hCopy hFound
  refine ⟨_, _, packages_of_isNamed sourceUrl hRoot, packages_of_isNamed sourceUrl hTarget,
    ?_, ?_, ?_⟩
  · intro package hPackage
    obtain ⟨child, _, hFound⟩ := List.mem_filterMap.mp (mem_sorted.mp hPackage)
    obtain ⟨_, _, hOwn⟩ := found?_eq_ok hFound
    rw [(ofElementOfKind_underLicenses hOwn []).2.2, licenseOf_licensesOf]
  · intro package hPackage
    obtain ⟨copy, hCopy, hFound⟩ := List.mem_filterMap.mp (mem_sorted.mp hPackage)
    exact hFirst (exists_copy hMade hCopy hFound) hFound
  · intro tool hTool copy package hLabel hCopy hFound
    have hMember := mem_tools hTool (found?_eq_some hFound).1 hLabel hCopy
    have hChild : copy ∈ salvaged.children := by
      rw [hBuilt, build_children]
      exact List.mem_append_right _ hMember
    have hOther := found?_tool? hSource hLabel hCopy hFound
      (licensesOf salvaged Feed.Family.repository.latestSpace)
    refine ⟨mem_sorted.mpr (List.mem_filterMap.mpr ⟨tool, hTool, hFound⟩), hChild, _,
      mem_sorted.mpr (List.mem_filterMap.mpr ⟨copy, hChild, hOther⟩), hOther, ?_⟩
    have hText : licenseOf (licensesOf salvaged Feed.Family.repository.latestSpace)
        package.licenseRef = (textsFor root root.name.space package.licenseRef).head? :=
      hFirst hMember hOther
    rw [underLicenses, hText]

/-- An index of a later version in which two licences go by the name that its tool refers to. -/
def doubledIndex : List UInt8 :=
  Load.asciiBytes (List.flatMap String.toList [
    "<sdk-repository xmlns=\"http://schemas.",
    "android.com/sdk/android/repository/4\">",
    "<license id=\"t\">first</license>",
    "<license id=\"t\">last</license>",
    "<platform-tool><revision>2</revision>",
    "<uses-license ref=\"t\"/><archives>",
    "<archive><url>a</url></archive>",
    "</archives></platform-tool>",
    "</sdk-repository>"])

/-- What the doubled index says, on its one line. -/
def doubledRoot : Tree :=
  let space := "http://schemas.android.com/sdk/android/repository/4"
  let license (content : String) : Item Tree :=
    .child (.mk ⟨space, "license"⟩ [(⟨"", "id"⟩, "t")] 1 [.text content])
  .mk ⟨space, "sdk-repository"⟩ [] 1
    [license "first", license "last",
     .child (.mk ⟨space, "platform-tool"⟩ [] 1
      [.child (.mk ⟨space, "revision"⟩ [] 1 [.text "2"]),
       .child (.mk ⟨space, "uses-license"⟩ [(⟨"", "ref"⟩, "t")] 1 []),
       .child (.mk ⟨space, "archives"⟩ [] 1
        [.child (.mk ⟨space, "archive"⟩ [] 1 [.child (.mk ⟨space, "url"⟩ [] 1 [.text "a"])])])])]

theorem read_doubledIndex : Xml.read doubledIndex = .ok doubledRoot := by
  decide +kernel

theorem ofBytes_doubledIndex {salvaged : Tree}
    (hMade : ofDocument? .repository doubledRoot = some salvaged) :
    ofBytes .repository doubledIndex = .ok (some salvaged) := by
  rw [ofBytes, read_doubledIndex, if_pos (by decide +kernel)]
  exact congrArg Except.ok hMade

/-- The doubled index can be read and salvaged. -/
theorem doubledIndex_takes_first_license : ∃ salvaged packages rescued,
    Xml.read doubledIndex = .ok doubledRoot ∧
    ofBytes .repository doubledIndex = .ok (some salvaged) ∧
    (Index.ofDocument .repository doubledRoot.name.space "u" doubledRoot).packages =
      some packages ∧
    (Index.ofDocument .repository Feed.Family.repository.latestSpace "u" salvaged).packages =
      some rescued ∧
    ∀ package ∈ rescued,
      package.license = (textsFor doubledRoot doubledRoot.name.space package.licenseRef).head? := by
  have hSome : (ofDocument? .repository doubledRoot).isSome = true := by decide +kernel
  obtain ⟨salvaged, hMade⟩ := Option.isSome_iff_exists.mp hSome
  have hSalvage := ofBytes_doubledIndex hMade
  obtain ⟨packages, rescued, hOriginal, hRescued, _, hFirst, _⟩ :=
    salvage_takes_first_license "u" read_doubledIndex hSalvage
  exact ⟨salvaged, packages, rescued, read_doubledIndex, hSalvage, hOriginal, hRescued, hFirst⟩

/-- The platform tool of the doubled index has another licence after salvaging. -/
theorem doubledIndex_changes_license : ∃ salvaged before after,
    Xml.read doubledIndex = .ok doubledRoot ∧
    ofBytes .repository doubledIndex = .ok (some salvaged) ∧
    (Index.ofDocument .repository doubledRoot.name.space "u" doubledRoot).packages =
      some [before] ∧
    (Index.ofDocument .repository Feed.Family.repository.latestSpace "u" salvaged).packages =
      some [after] ∧
    before.license = some "last" ∧ after.license = some "first" := by
  have hMade : ∃ salvaged, ofDocument? .repository doubledRoot = some salvaged ∧
      ∃ before after,
        doubledRoot.children.filterMap (found? .repository doubledRoot.name.space
          (licensesOf doubledRoot doubledRoot.name.space) "u") = [before] ∧
        salvaged.children.filterMap (found? .repository Feed.Family.repository.latestSpace
          (licensesOf salvaged Feed.Family.repository.latestSpace) "u") = [after] ∧
        before.license = some "last" ∧ after.license = some "first" :=
    ⟨_, rfl, _, _, rfl, rfl, by decide +kernel, by decide +kernel⟩
  obtain ⟨salvaged, hMade, before, after, hBefore, hAfter, hTexts⟩ := hMade
  obtain ⟨hRoot, hTarget⟩ := isNamed_of_salvage hMade
  refine ⟨salvaged, before, after, read_doubledIndex, ofBytes_doubledIndex hMade, ?_, ?_, hTexts⟩
  · rw [packages_of_isNamed "u" hRoot, hBefore, sorted, List.mergeSort_singleton]
  · rw [packages_of_isNamed "u" hTarget, hAfter, sorted, List.mergeSort_singleton]

end Salvage

end SdkFeed.Package
