import SdkFeed.Proofs.Package.Copy
import SdkFeed.Proofs.Package.Stability
import SdkFeed.Proofs.Schema.Conformance

/-! What a salvaged document keeps. Its packages are those tools of the original that have an archive,
with all their fields and in their order, if the licences of the original have different names and
no archive of a tool is without an address. -/
namespace SdkFeed.Package

open SdkFeed.Xml

/-- The package that a child of the root describes, if nothing is wrong with it. -/
def found? (source : Feed.Kind) (space : String) (licenses : Licenses) (sourceUrl : String)
    (child : Tree) : Option Package :=
  (Entry.ofChild? source space licenses sourceUrl child).bind Entry.package?

variable {source : Feed.Kind} {kind : Kind} {space sourceUrl label : String} {licenses : Licenses}
  {child root tool copy : Tree} {package : Package}

theorem filterMap_package? : (entries source space sourceUrl root).filterMap Entry.package? =
    root.children.filterMap (found? source space (licensesOf root space) sourceUrl) := by
  rw [entries, List.filterMap_filterMap]
  rfl

theorem found?_of_kindOf? (hSpace : child.name.space = space)
    (hKind : kindOf? source child.name.label = some kind) :
    found? source space licenses sourceUrl child =
      (ofElementOfKind kind child space licenses sourceUrl).toOption := by
  simp only [found?, Entry.ofChild?, ofElement, hSpace, hKind, bne_self_eq_false]
  cases ofElementOfKind kind child space licenses sourceUrl <;> rfl

theorem found?_eq_none_of_kindOf? (hKind : kindOf? source child.name.label = none) :
    found? source space licenses sourceUrl child = none := by
  rw [found?, Entry.ofChild?, ofElement, hKind]
  split <;> rfl

theorem found?_eq_some (hFound : found? source space licenses sourceUrl child = some package) :
    child.name.space = space ∧ kindOf? source child.name.label = some package.kind := by
  obtain ⟨entry, hEntry, hPackage⟩ := Option.bind_eq_some_iff.mp hFound
  cases entry with
  | faulty => cases hPackage
  | found other =>
      obtain rfl := Option.some.inj hPackage
      obtain ⟨hSpace, hRead⟩ := Entry.ofChild?_eq_found hEntry
      exact ⟨hSpace, ofElement_kind hRead⟩

/-- With different keys, what is looked up does not depend on the order, nor on what is left out for
other keys. -/
theorem lookup_reverse_filter {α : Type} {items : List (String × α)}
    (hDistinct : (items.map Prod.fst).Nodup) {keeps : String → Bool} {key : String}
    (hKeeps : keeps key = true) :
    (items.reverse.filter fun item => keeps item.1).lookup key = items.lookup key := by
  cases hFound : items.lookup key with
  | none =>
      rw [List.lookup_eq_none_iff] at hFound ⊢
      intro item hItem
      exact hFound item (List.mem_reverse.mp (List.mem_filter.mp hItem).1)
  | some value =>
      refine Schema.lookup_of_mem ?_ (List.mem_filter.mpr ⟨?_, hKeeps⟩)
      · have hReversed : (items.reverse.map Prod.fst).Nodup := by simpa using hDistinct
        exact hReversed.sublist (List.filter_sublist.map Prod.fst)
      · exact List.mem_reverse.mpr (mem_of_lookup_eq_some hFound)

namespace Salvage

variable {source target sourceUrl : String} {family : Feed.Family} {licenses otherLicenses : Licenses}

/-- The names of the licences that the tools of a document refer to. -/
def usedNames (source target : String) (root : Tree) : List String :=
  (tools source target root).filterMap (licenseName? target)

theorem ofDocument?_eq_some {salvaged : Tree} : ofDocument? family root = some salvaged ↔
    root.name.label = family.root ∧ (family.versionDigits? root.name.space).isSome = true ∧
      tools root.name.space family.latestSpace root ≠ [] ∧
      salvaged = build family.latestSpace family.root [] none
        ((root.children.filterMap (license? root.name.space family.latestSpace
            (usedNames root.name.space family.latestSpace root))).reverse ++
          tools root.name.space family.latestSpace root) := by
  constructor
  · intro hSalvage
    obtain ⟨_, hNamed, hRest⟩ := Option.bind_eq_some_iff.mp hSalvage
    obtain ⟨_, hSome, hBuilt⟩ := Option.bind_eq_some_iff.mp hRest
    have hTools := (Option.guard_eq_some' _).mp hSome
    simp only [Option.guard_eq_some', Bool.and_eq_true, beq_iff_eq] at hNamed
    refine ⟨hNamed.1, hNamed.2, fun hNone => ?_, (Option.some.inj hBuilt).symm⟩
    rw [hNone] at hTools
    cases hTools
  · rintro ⟨hLabel, hVersion, hTools, rfl⟩
    have hSome : (!(tools root.name.space family.latestSpace root).isEmpty) = true := by
      rw [List.isEmpty_eq_false_iff.mpr hTools]
      rfl
    refine Option.bind_eq_some_iff.mpr ⟨(), (Option.guard_eq_some' _).mpr ?_, ?_⟩
    · rw [hLabel, hVersion, BEq.rfl]
      rfl
    · exact Option.bind_eq_some_iff.mpr ⟨(), (Option.guard_eq_some' _).mpr hSome, rfl⟩

theorem ne_anySpace_of_version {source : Feed.Kind} {space : String}
    (hVersion : (source.family.versionDigits? space).isSome = true) : space ≠ anySpace := by
  rintro rfl
  cases source <;> exact absurd hVersion (by decide)

theorem tool?_name (hTool : tool? source target tool = some copy) :
    copy.name = ⟨target, tool.name.label⟩ := by
  obtain ⟨_, list, _, _, rfl⟩ := tool?_eq_some.mp hTool
  rfl

theorem archivesOf_ne_nil {archives : List Archive} (hArchives : archivesOf tool source = .ok archives) :
    archives ≠ [] ↔ ∃ list, childNamed? tool source "archives" = some list ∧
      childrenNamed list source "archive" ≠ [] := by
  rw [archivesOf] at hArchives
  cases hList : childNamed? tool source "archives" with
  | none =>
      rw [hList] at hArchives
      obtain rfl := Except.ok.inj hArchives
      simp
  | some list =>
      rw [hList] at hArchives
      have hLength := (mapM_eq_ok.mp hArchives).length_eq
      simp [← List.length_eq_zero_iff, hLength]

/-- A tool that can be read is salvaged just where it has an archive. -/
theorem tool?_isSome (hUrls : HasAddresses source tool)
    (hPackage : ofElementOfKind kind tool source licenses sourceUrl = .ok package) :
    (tool? source target tool).isSome = true ↔ package.archives ≠ [] := by
  obtain ⟨libraries, hRead⟩ := isRead_of_ofElementOfKind hPackage
  have hRevision : (childNamed? tool source "revision").isSome = true := by
    obtain ⟨text, hText, _⟩ := bind_eq_ok.mp hRead.revision
    cases hChild : childNamed? tool source "revision" with
    | some child => rfl
    | none =>
        rw [requiredText, textOf, hChild] at hText
        cases hText
  rw [archivesOf_ne_nil hRead.archives, Option.isSome_iff_exists]
  constructor
  · rintro ⟨copy, hCopy⟩
    obtain ⟨_, list, hList, hCopies, _⟩ := tool?_eq_some.mp hCopy
    refine ⟨list, hList, fun hNone => hCopies ?_⟩
    rw [archiveCopies, hNone]
    rfl
  · rintro ⟨list, hList, hSome⟩
    refine ⟨_, tool?_eq_some.mpr ⟨hRevision, list, hList, ?_, rfl⟩⟩
    obtain ⟨first, rest, hArchives⟩ := List.exists_cons_of_ne_nil hSome
    have hFirst := hUrls list hList first (hArchives ▸ List.mem_cons_self)
    rw [archiveCopies, hArchives, List.filterMap_cons_some (archive?_eq_some.mpr ⟨hFirst, rfl⟩)]
    exact List.cons_ne_nil _ _

theorem mem_toolLabels (hKind : kindOf? .repository label = some kind) :
    label ∈ toolLabels ↔ kind = .tool ∨ kind = .platformTool := by
  have hName := Kind.name_of_ofName? (Option.filter_eq_some_iff.mp hKind).1
  subst hName
  cases kind <;> decide

theorem exists_kindOf? (hLabel : label ∈ toolLabels) :
    ∃ kind, kindOf? .repository label = some kind ∧ (kind = .tool ∨ kind = .platformTool) := by
  simp only [toolLabels, List.mem_cons, List.not_mem_nil, or_false] at hLabel
  rcases hLabel with rfl | rfl
  · exact ⟨.tool, by decide, .inl rfl⟩
  · exact ⟨.platformTool, by decide, .inr rfl⟩

/-- The licences of a salvaged document are those of the original that a tool refers to, the first one
last. -/
theorem licensesOf_salvaged {salvaged : Tree} (hTarget : family.latestSpace.isEmpty = false)
    (hSalvage : ofDocument? family root = some salvaged) :
    licensesOf salvaged family.latestSpace = (licensesOf root root.name.space).reverse.filter
      fun license => (usedNames root.name.space family.latestSpace root).contains license.1 := by
  obtain ⟨_, _, _, rfl⟩ := ofDocument?_eq_some.mp hSalvage
  generalize hUsed : usedNames root.name.space family.latestSpace root = used
  generalize family.latestSpace = target at *
  have hTools : (tools root.name.space target root).filterMap (fun child =>
      if isNamed child target "license" then
        (plainAttribute? child "id").map fun name => (name, child.innerText)
      else none) = [] := by
    refine List.filterMap_eq_nil_iff.mpr fun copy hCopy => if_neg ?_
    have hLabel := tools_label hCopy
    simp only [isNamed, Bool.and_eq_true, beq_iff_eq]
    rintro ⟨_, hName⟩
    rw [hName] at hLabel
    exact absurd hLabel (by decide : "license" ∉ toolLabels)
  rw [licensesOf, build_children, List.filterMap_append, hTools, List.append_nil,
    List.filterMap_reverse, List.reverse_reverse, List.filterMap_filterMap, licensesOf,
    List.reverse_reverse, List.filter_filterMap]
  apply List.filterMap_congr
  intro child _
  rw [license?_eq]
  split
  · cases hName : plainAttribute? child "id" with
    | none => rfl
    | some name =>
        have hCopyNamed : isNamed (licenseCopy target child) target "license" = true := by
          simp [isNamed, hTarget, licenseCopy, build_name]
        have hCopyName : plainAttribute? (licenseCopy target child) "id" = some name := hName
        by_cases hUses : name ∈ used
        · simp [Option.filter, hUses, hCopyNamed, hCopyName, innerText_licenseCopy]
        · simp [Option.filter, hUses]
  · rfl

theorem mem_usedNames {name : String} (hSource : source ≠ anySpace)
    (hTool : tool? source target tool = some copy) (hCopy : copy ∈ tools source target root)
    (hRef : licenseRefOf tool source = some name) (hName : name.isEmpty = false) :
    name ∈ usedNames source target root := by
  refine List.mem_filterMap.mpr ⟨copy, hCopy, ?_⟩
  have hLeaves := hasLeaves_tool? hSource hTool
  rw [licenseName?, bind_plainAttribute?_of_hasLeaves hLeaves (by decide), ← licenseRefOf, hRef,
    Option.filter_some, hName]
  rfl

/-- What is left of the packages of an original. -/
def isKept (package : Package) : Bool :=
  (package.kind == .tool || package.kind == .platformTool) && !package.archives.isEmpty

theorem isKept_iff : isKept package = true ↔
    (package.kind = .tool ∨ package.kind = .platformTool) ∧ package.archives ≠ [] := by
  simp [isKept]

/-- A child of the original is found in the copy if it describes a package that is kept, and nothing
else is. -/
theorem found?_copy (hSource : source ≠ anySpace)
    (hUrls : child.name.space = source → child.name.label ∈ toolLabels → HasAddresses source child)
    (hLicense : ∀ copy, child.name.space = source → child.name.label ∈ toolLabels →
      tool? source target child = some copy →
      licenseOf otherLicenses (licenseRefOf child source) =
        licenseOf licenses (licenseRefOf child source)) :
    (if child.name.space == source && toolLabels.contains child.name.label then
      (tool? source target child).bind (found? .repository target otherLicenses sourceUrl) else none) =
      (found? .repository source licenses sourceUrl child).filter isKept := by
  by_cases hTool : child.name.space = source ∧ child.name.label ∈ toolLabels
  · obtain ⟨hSpace, hLabel⟩ := hTool
    obtain ⟨kind, hKind, hEither⟩ := exists_kindOf? hLabel
    have hKept (package : Package)
        (hPackage : ofElementOfKind kind child source licenses sourceUrl = .ok package) :
        isKept package = true ↔ (tool? source target child).isSome = true := by
      rw [isKept_iff, tool?_isSome (hUrls hSpace hLabel) hPackage, ofElementOfKind_kind hPackage]
      exact and_iff_right hEither
    rw [if_pos (by simp [hSpace, hLabel]), found?_of_kindOf? hSpace hKind]
    cases hCopy : tool? source target child with
    | none =>
        cases hPackage : ofElementOfKind kind child source licenses sourceUrl with
        | error => rfl
        | ok package =>
            have hLost : isKept package = false := by simpa [hCopy] using hKept package hPackage
            simp [Except.toOption, Option.filter_some, hLost]
    | some copy =>
        have hName := tool?_name hCopy
        have hCopySpace : copy.name.space = target := by rw [hName]
        have hCopyKind : kindOf? .repository copy.name.label = some kind := by rw [hName, hKind]
        rw [Option.bind_some, found?_of_kindOf? hCopySpace hCopyKind,
          ofElementOfKind_congr (isReadLike_tool? hSource (hUrls hSpace hLabel) hEither hCopy) sourceUrl
            (hLicense copy hSpace hLabel hCopy)]
        cases hPackage : ofElementOfKind kind child source licenses sourceUrl with
        | error => rfl
        | ok package =>
            have hHeld : isKept package = true := by simpa [hCopy] using hKept package hPackage
            simp [Except.toOption, Option.filter_some, hHeld]
  · rw [if_neg (by simpa using hTool)]
    symm
    refine Option.filter_eq_none_iff.mpr fun package hFound hHeld => hTool ?_
    obtain ⟨hSpace, hKind⟩ := found?_eq_some hFound
    exact ⟨hSpace, (mem_toolLabels hKind).mpr (isKept_iff.mp hHeld).1⟩

theorem tools_filterMap {β : Type} (read : Tree → Option β) :
    (tools source target root).filterMap read = root.children.filterMap fun child =>
      if child.name.space == source && toolLabels.contains child.name.label then
        (tool? source target child).bind read else none := by
  rw [tools, List.filterMap_filterMap, List.filterMap_filter]

theorem found?_license {used : List String}
    (hLicense : license? source target used child = some copy) :
    found? .repository target licenses sourceUrl copy = none :=
  found?_eq_none_of_kindOf? (by rw [license?_label hLicense]; decide)

/-- Both lists of packages in document order. -/
theorem filterMap_package?_salvaged {salvaged : Tree}
    (hSalvage : ofDocument? Feed.Kind.repository.family root = some salvaged)
    (hLicenses : ((licensesOf root root.name.space).map Prod.fst).Nodup)
    (hUrls : ∀ tool ∈ root.children, tool.name.space = root.name.space →
      tool.name.label ∈ toolLabels → HasAddresses root.name.space tool) :
    (entries .repository Feed.Kind.repository.family.latestSpace sourceUrl
        salvaged).filterMap Entry.package? =
      ((entries .repository root.name.space sourceUrl root).filterMap Entry.package?).filter
        isKept := by
  obtain ⟨_, hVersion, _, hBuilt⟩ := ofDocument?_eq_some.mp hSalvage
  have hSource : root.name.space ≠ anySpace := ne_anySpace_of_version
    (show (Feed.Kind.repository.family.versionDigits? _).isSome = true from hVersion)
  have hSalvaged := licensesOf_salvaged (by decide) hSalvage
  rw [filterMap_package?, filterMap_package?, hSalvaged, hBuilt, build_children,
    List.filterMap_append, List.filterMap_reverse, List.filterMap_filterMap, tools_filterMap,
    List.filter_filterMap]
  -- The licences in front of the tools are no packages.
  have hNone : root.children.filterMap (fun child =>
      (license? root.name.space Feed.Kind.repository.family.latestSpace
        (usedNames root.name.space Feed.Kind.repository.family.latestSpace root) child).bind
          (found? .repository Feed.Kind.repository.family.latestSpace
            ((licensesOf root root.name.space).reverse.filter fun license =>
              (usedNames root.name.space Feed.Kind.repository.family.latestSpace root).contains
                license.1) sourceUrl)) = [] := by
    refine List.filterMap_eq_nil_iff.mpr fun child _ => ?_
    refine Option.bind_eq_none_iff.mpr fun copy hCopy => ?_
    exact found?_license hCopy
  rw [hNone, List.reverse_nil, List.nil_append]
  apply List.filterMap_congr
  intro child hChild
  -- What is left to show of a tool is that its licence is among those that were copied.
  apply found?_copy hSource (hUrls child hChild)
  intro copy hSpace hLabel hCopy
  cases hRef : licenseRefOf child root.name.space with
  | none => rfl
  | some name =>
      by_cases hName : name.isEmpty
      · simp [licenseOf, hName]
      · have hUsed : name ∈ usedNames root.name.space
            Feed.Kind.repository.family.latestSpace root := by
          refine mem_usedNames hSource hCopy ?_ hRef (by simpa using hName)
          refine List.mem_filterMap.mpr ⟨child, List.mem_filter.mpr ⟨hChild, ?_⟩, hCopy⟩
          simp [hSpace, hLabel]
        simp only [licenseOf, hName]
        exact lookup_reverse_filter hLicenses (List.contains_iff_mem.mpr hUsed)

/-- Salvaging loses nothing that it keeps and changes nothing in it. In the newest version, the
salvaged document has just those packages of the original that are tools with an archive; they are
equal in every field, and in the same order. -/
theorem salvage_keeps_tools {bytes : List UInt8} {salvaged : Tree} (sourceUrl : String)
    (hRead : Xml.read bytes = .ok root) (hSalvage : ofBytes .repository bytes = .ok (some salvaged))
    (hLicenses : ((licensesOf root root.name.space).map Prod.fst).Nodup)
    (hUrls : ∀ tool ∈ root.children, tool.name.space = root.name.space →
      tool.name.label ∈ toolLabels → HasAddresses root.name.space tool) :
    ∃ packages,
      (Index.ofDocument .repository root.name.space sourceUrl root).packages = some packages ∧
      (Index.ofDocument .repository Feed.Family.repository.latestSpace sourceUrl salvaged).packages =
        some (packages.filter isKept) := by
  obtain ⟨_, document, hDocument, hMade⟩ := ofBytes_eq_some hSalvage
  obtain rfl : root = document := Except.ok.inj (hRead.symm.trans hDocument)
  obtain ⟨hLabel, hVersion, _, hBuilt⟩ := ofDocument?_eq_some.mp hMade
  have hFilled : root.name.space.isEmpty = false := by
    by_contra hEmpty
    simp only [Bool.not_eq_false, String.isEmpty_iff] at hEmpty
    rw [hEmpty] at hVersion
    exact absurd hVersion (by decide)
  have hRoot : isNamed root root.name.space Feed.Kind.repository.family.root = true := by
    rw [isNamed, hFilled, ← hLabel]
    simp
  have hTarget : isNamed salvaged Feed.Kind.repository.family.latestSpace
      Feed.Kind.repository.family.root = true := by
    rw [isNamed, ofDocument?_name hMade]
    decide
  refine ⟨sorted ((entries .repository root.name.space sourceUrl root).filterMap Entry.package?),
    ?_, ?_⟩
  · rw [Index.ofDocument, if_pos hRoot]
  · show (Index.ofDocument .repository Feed.Kind.repository.family.latestSpace sourceUrl
      salvaged).packages = _
    rw [Index.ofDocument, if_pos hTarget, filter_sorted,
      ← filterMap_package?_salvaged hMade hLicenses hUrls]

/-- An index of a later version: platform tools with an archive and a licence, among them an element that
the version understood does not know; platform tools without an archive; and another such element. -/
def laterIndex : List UInt8 :=
  Load.asciiBytes (List.flatMap String.toList [
    "<sdk-repository xmlns=\"http://schemas.",
    "android.com/sdk/android/repository/4\">",
    "<license id=\"l\"> t </license>",
    "<platform-tool><revision> 2 ",
    "</revision><news/>",
    "<uses-license ref=\"l\"/><archives>",
    "<archive os=\"linux\"><size>1</size>",
    "<checksum type=\"sha1\">",
    "01234567890123456789012345678901234567",
    "89",
    "</checksum><url>a</url></archive>",
    "</archives></platform-tool>",
    "<platform-tool><revision>3",
    "</revision></platform-tool>",
    "<gadget/></sdk-repository>"])

/-- What the later index says, on its one line. -/
def laterRoot : Tree :=
  let space := "http://schemas.android.com/sdk/android/repository/4"
  let text (label content : String) : Item Tree := .child (.mk ⟨space, label⟩ [] 1 [.text content])
  .mk ⟨space, "sdk-repository"⟩ [] 1
    [.child (.mk ⟨space, "license"⟩ [(⟨"", "id"⟩, "l")] 1 [.text " t "]),
     .child (.mk ⟨space, "platform-tool"⟩ [] 1
      [text "revision" " 2 ",
       .child (.mk ⟨space, "news"⟩ [] 1 []),
       .child (.mk ⟨space, "uses-license"⟩ [(⟨"", "ref"⟩, "l")] 1 []),
       .child (.mk ⟨space, "archives"⟩ [] 1
        [.child (.mk ⟨space, "archive"⟩ [(⟨"", "os"⟩, "linux")] 1
          [text "size" "1",
           .child (.mk ⟨space, "checksum"⟩ [(⟨"", "type"⟩, "sha1")] 1
            [.text "0123456789012345678901234567890123456789"]),
           text "url" "a"])])]),
     .child (.mk ⟨space, "platform-tool"⟩ [] 1 [text "revision" "3"]),
     .child (.mk ⟨space, "gadget"⟩ [] 1 [])]

theorem read_laterIndex : Xml.read laterIndex = .ok laterRoot := by
  decide +kernel

/-- Of the later index, the platform tools with an archive are kept. -/
theorem laterIndex_keeps_tools : ∃ salvaged packages,
    ofBytes .repository laterIndex = .ok (some salvaged) ∧
    ((licensesOf laterRoot laterRoot.name.space).map Prod.fst).Nodup ∧
    (∀ tool ∈ laterRoot.children, tool.name.space = laterRoot.name.space →
      tool.name.label ∈ toolLabels → HasAddresses laterRoot.name.space tool) ∧
    (Index.ofDocument .repository laterRoot.name.space "u" laterRoot).packages = some packages ∧
    (Index.ofDocument .repository Feed.Family.repository.latestSpace "u" salvaged).packages =
      some (packages.filter isKept) := by
  have hSome : (ofDocument? .repository laterRoot).isSome = true := by decide +kernel
  obtain ⟨salvaged, hMade⟩ := Option.isSome_iff_exists.mp hSome
  have hSalvage : ofBytes .repository laterIndex = .ok (some salvaged) := by
    rw [ofBytes, read_laterIndex, if_pos (by decide +kernel)]
    exact congrArg Except.ok hMade
  have hLicenses : ((licensesOf laterRoot laterRoot.name.space).map Prod.fst).Nodup := by
    decide +kernel
  have hUrls : ∀ tool ∈ laterRoot.children, tool.name.space = laterRoot.name.space →
      tool.name.label ∈ toolLabels → HasAddresses laterRoot.name.space tool := by
    decide +kernel
  obtain ⟨packages, hOriginal, hKept⟩ :=
    salvage_keeps_tools "u" read_laterIndex hSalvage hLicenses hUrls
  exact ⟨salvaged, packages, hSalvage, hLicenses, hUrls, hOriginal, hKept⟩

end Salvage

end SdkFeed.Package
