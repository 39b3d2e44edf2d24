import SdkFeed.Proofs.Feed.Recognition
import SdkFeed.Proofs.Package.Salvaging

/-! The shape of salvaged documents. No schema is checked before such a document is read, so what the
reduction lets through is all that is known of it: licences that its tools use, then the tools, with
children that are leaves, and archives. A document is given up just where no tool in it has a revision
and an archive with an address. -/
namespace SdkFeed.Package.Salvage

open SdkFeed.Xml

/-- An archive that has been reduced: it has an address, and all that it holds are leaves. -/
structure IsReducedArchive (archive : Tree) : Prop where
  label : archive.name.label = "archive"
  address : ∃ child ∈ archive.children, child.name.label = "url"
  fields : ∀ child ∈ archive.children, child.name.label ∈ archiveFields ∧ child.children = []

/-- A tool that has been reduced: it has a revision and one list of archives, and all else that it holds
are leaves. -/
structure IsReducedTool (tool : Tree) : Prop where
  label : tool.name.label ∈ toolLabels
  revision : ∃ child ∈ tool.children, child.name.label = "revision"
  archives : ∃ list, tool.children.filter (·.name.label == "archives") = [list] ∧
    list.children ≠ [] ∧ ∀ archive ∈ list.children, IsReducedArchive archive
  fields : ∀ child ∈ tool.children, child.name.label ≠ "archives" →
    child.name.label ∈ toolFields ∧ child.children = []

/-- A licence that has been kept: one of the tools refers to it first of all. -/
structure IsUsedLicense (space : String) (tools : List Tree) (license : Tree) : Prop where
  label : license.name.label = "license"
  children : license.children = []
  name : ∃ ref tool, tool ∈ tools ∧ licenseRefOf tool space = some ref ∧
    plainAttribute? license "id" = some ref

/-- Whether an element has a child with a name. -/
def hasChild (element : Tree) (name : Name) : Bool :=
  element.children.any (·.name == name)

/-- Whether an element is a tool that can be salvaged: it has a revision and, in its first list of
archives, an archive with an address. -/
def isUsable (space : String) (tool : Tree) : Bool :=
  tool.name.space == space && toolLabels.contains tool.name.label &&
    hasChild tool ⟨space, "revision"⟩ &&
      (tool.children.find? (·.name == ⟨space, "archives"⟩)).any fun list =>
        list.children.any fun archive =>
          archive.name == ⟨space, "archive"⟩ && hasChild archive ⟨space, "url"⟩

/-- A document that has been reduced to the tools of another one. -/
structure IsReduced (space label : String) (root reduced : Tree) : Prop where
  name : reduced.name = ⟨space, label⟩
  spaces : reduced.Everywhere fun element => element.name.space = space
  /-- The usable tools are there in their order, behind licences that they use. -/
  children : ∃ licenses tools, reduced.children = licenses ++ tools ∧ tools ≠ [] ∧
    List.Forall₂ (fun original tool => tool? root.name.space space original = some tool ∧
      tool.name.label = original.name.label ∧ IsReducedTool tool)
      (root.children.filter (isUsable root.name.space)) tools ∧
    ∀ license ∈ licenses, IsUsedLicense space tools license

variable {source target label : String} {labels : List String} {element copy tool root child : Tree}

/-- What `filterMap` leaves comes from the members that it keeps, one from each. -/
theorem forall₂_filterMap {α β : Type} {f : α → Option β} (as : List α) :
    List.Forall₂ (fun a b => f a = some b) (as.filter fun a => (f a).isSome) (as.filterMap f) := by
  induction as with
  | nil => exact .nil
  | cons a rest ih =>
      cases hValue : f a with
      | none => rwa [List.filterMap_cons_none hValue, List.filter_cons_of_neg (by simp [hValue])]
      | some b =>
          rw [List.filterMap_cons_some hValue, List.filter_cons_of_pos (by simp [hValue])]
          exact .cons hValue ih

section Spaces

/-- All elements are in one namespace if those are that it is built of. -/
theorem everywhere_build {attributes : List (Name × String)} {text : Option String}
    {children : List Tree}
    (hChildren : ∀ child ∈ children, child.Everywhere fun inner => inner.name.space = target) :
    (build target label attributes text children).Everywhere fun inner =>
      inner.name.space = target := by
  refine .intro rfl ?_
  rw [build_children]
  exact hChildren

theorem everywhere_leaf : (leaf target element).Everywhere fun inner => inner.name.space = target :=
  everywhere_build nofun

theorem everywhere_leaves : ∀ child ∈ leaves source target labels element,
    child.Everywhere fun inner => inner.name.space = target := by
  intro child hChild
  obtain ⟨original, _, rfl⟩ := List.mem_map.mp hChild
  exact everywhere_leaf

theorem everywhere_tool? (hTool : tool? source target tool = some copy) :
    copy.Everywhere fun inner => inner.name.space = target := by
  obtain ⟨_, list, _, _, rfl⟩ := tool?_eq_some.mp hTool
  refine everywhere_build fun child hChild => ?_
  rcases List.mem_append.mp hChild with hLeaf | hList
  · exact everywhere_leaves child hLeaf
  · obtain rfl := List.mem_singleton.mp hList
    refine everywhere_build fun archive hArchive => ?_
    obtain ⟨original, _, hCopy⟩ := List.mem_filterMap.mp hArchive
    obtain ⟨_, rfl⟩ := archive?_eq_some.mp hCopy
    exact everywhere_build everywhere_leaves

theorem license?_eq_some {used : List String} : license? source target used child = some copy ↔
    isNamed child source "license" = true ∧
      (∃ name ∈ used, plainAttribute? child "id" = some name) ∧ licenseCopy target child = copy := by
  rw [license?_eq]
  by_cases hNamed : isNamed child source "license" = true
  · cases hName : plainAttribute? child "id" with
    | none => simp
    | some name => by_cases hUsed : name ∈ used <;> simp [hNamed, Option.filter, hUsed]
  · simp [hNamed]

end Spaces

section Shape

theorem mem_leaves : child ∈ leaves source target labels element ↔
    ∃ original ∈ element.children, original.name.space = source ∧ original.name.label ∈ labels ∧
      leaf target original = child := by
  simp [leaves, and_assoc]

/-- A leaf that is copied has the label of a field, and holds no element. -/
theorem leaves_fields (hChild : child ∈ leaves source target labels element) :
    child.name.label ∈ labels ∧ child.children = [] := by
  obtain ⟨original, _, _, hLabel, rfl⟩ := mem_leaves.mp hChild
  exact ⟨hLabel, build_children ..⟩

/-- A child that is found has a copy among the leaves. -/
theorem exists_leaf (hSource : source ≠ anySpace) (hLabel : label ∈ labels)
    (hFound : (childNamed? element source label).isSome = true) :
    ∃ child ∈ leaves source target labels element, child.name.label = label := by
  obtain ⟨original, hOriginal⟩ := Option.isSome_iff_exists.mp hFound
  obtain ⟨hIn, hSelected⟩ := List.mem_filter.mp (List.mem_of_head? hOriginal)
  simp only [Bool.and_eq_true, beq_iff_eq, Bool.or_eq_true, or_iff_right hSource] at hSelected
  obtain ⟨hName, hSpace⟩ := hSelected
  exact ⟨leaf target original, mem_leaves.mpr ⟨original, hIn, hSpace, hName ▸ hLabel, rfl⟩, hName⟩

theorem isReducedArchive_archive? (hSource : source ≠ anySpace)
    (hArchive : archive? source target element = some copy) : IsReducedArchive copy := by
  obtain ⟨hUrl, rfl⟩ := archive?_eq_some.mp hArchive
  refine ⟨rfl, ?_, ?_⟩
  · rw [build_children]
    exact exists_leaf hSource (by decide) hUrl
  · intro child hChild
    rw [build_children] at hChild
    exact leaves_fields hChild

theorem isReducedTool_tool? (hSource : source ≠ anySpace) (hLabel : tool.name.label ∈ toolLabels)
    (hTool : tool? source target tool = some copy) : IsReducedTool copy := by
  obtain ⟨hRevision, list, _, hArchives, rfl⟩ := tool?_eq_some.mp hTool
  have hOthers : (leaves source target toolFields tool).filter (·.name.label == "archives") = [] := by
    refine List.filter_eq_nil_iff.mpr fun child hChild hList => ?_
    have hField := (leaves_fields hChild).1
    rw [beq_iff_eq.mp hList] at hField
    exact absurd hField (by decide)
  refine ⟨hLabel, ?_, ?_, ?_⟩
  · obtain ⟨child, hChild, hNamed⟩ : ∃ child ∈ leaves source target toolFields tool,
        child.name.label = "revision" := exists_leaf hSource (by decide) hRevision
    exact ⟨child, by rw [build_children]; exact List.mem_append_left _ hChild, hNamed⟩
  · refine ⟨build target "archives" [] none (archiveCopies source target list), ?_, ?_, ?_⟩
    · rw [build_children, List.filter_append, hOthers]
      rfl
    · rwa [build_children]
    · intro archive hArchive
      rw [build_children] at hArchive
      obtain ⟨original, _, hCopy⟩ := List.mem_filterMap.mp hArchive
      exact isReducedArchive_archive? hSource hCopy
  · intro child hChild hOther
    rw [build_children] at hChild
    rcases List.mem_append.mp hChild with hLeaf | hList
    · exact leaves_fields hLeaf
    · obtain rfl := List.mem_singleton.mp hList
      exact absurd rfl hOther

end Shape

section Usable

variable (hSource : source ≠ anySpace)

include hSource

theorem childrenNamed_eq_filter_name :
    childrenNamed element source label = element.children.filter (·.name == ⟨source, label⟩) := by
  rw [childrenNamed]
  congr 1
  funext child
  rw [Bool.eq_iff_iff, beq_iff_eq]
  obtain ⟨⟨space, name⟩, _, _, _⟩ := child
  simp [Element.name, hSource, and_comm]

theorem childNamed?_eq_find? :
    childNamed? element source label = element.children.find? (·.name == ⟨source, label⟩) := by
  rw [childNamed?, childrenNamed_eq_filter_name hSource, List.head?_filter]

theorem isSome_childNamed? :
    (childNamed? element source label).isSome = hasChild element ⟨source, label⟩ := by
  rw [childNamed?_eq_find? hSource, Bool.eq_iff_iff, List.find?_isSome, hasChild, List.any_eq_true]

theorem archiveCopies_ne_nil : archiveCopies source target element ≠ [] ↔
    (element.children.any fun archive =>
      archive.name == ⟨source, "archive"⟩ && hasChild archive ⟨source, "url"⟩) = true := by
  rw [archiveCopies, childrenNamed_eq_filter_name hSource, Ne, List.filterMap_eq_nil_iff]
  simp only [List.mem_filter, ← isSome_childNamed? hSource, archive?, List.any_eq_true]
  grind

/-- There is a copy of a tool just where the tool is usable. -/
theorem isSome_tool? (hSpace : tool.name.space = source) (hLabel : tool.name.label ∈ toolLabels) :
    (tool? source target tool).isSome = isUsable source tool := by
  rw [isUsable, hSpace, BEq.rfl, List.contains_iff_mem.mpr hLabel, Bool.true_and, Bool.true_and,
    Bool.eq_iff_iff, Option.isSome_iff_exists, Bool.and_eq_true, Option.any_eq_true,
    ← isSome_childNamed? hSource, ← childNamed?_eq_find? hSource]
  constructor
  · rintro ⟨copy, hCopy⟩
    obtain ⟨hRevision, list, hList, hArchives, _⟩ := tool?_eq_some.mp hCopy
    exact ⟨hRevision, list, hList, (archiveCopies_ne_nil hSource).mp hArchives⟩
  · rintro ⟨hRevision, list, hList, hArchives⟩
    exact ⟨_, tool?_eq_some.mpr
      ⟨hRevision, list, hList, (archiveCopies_ne_nil hSource).mpr hArchives, rfl⟩⟩

theorem filter_isUsable : root.children.filter (isUsable source) =
    (root.children.filter fun child =>
      child.name.space == source && toolLabels.contains child.name.label).filter
        fun child => (tool? source target child).isSome := by
  rw [List.filter_filter]
  apply List.filter_congr
  intro child _
  by_cases hTool : child.name.space = source ∧ child.name.label ∈ toolLabels
  · simp [isSome_tool? hSource hTool.1 hTool.2, hTool]
  · have hOther : (child.name.space == source && toolLabels.contains child.name.label) = false := by
      simpa using hTool
    rw [isUsable, hOther, Bool.and_false, Bool.false_and, Bool.false_and]

/-- The tools of a reduced document are copies of the usable ones, in their order. -/
theorem forall₂_tools : List.Forall₂ (fun original tool => tool? source target original = some tool ∧
      tool.name.label = original.name.label ∧ IsReducedTool tool)
    (root.children.filter (isUsable source)) (tools source target root) := by
  have hLabels : ∀ original ∈ root.children.filter (isUsable source),
      original.name.label ∈ toolLabels := by
    intro original hOriginal
    have hUsable := (List.mem_filter.mp hOriginal).2
    simp only [isUsable, Bool.and_eq_true] at hUsable
    exact List.contains_iff_mem.mp hUsable.1.1.2
  have hCopies : List.Forall₂ (fun original tool => tool? source target original = some tool)
      (root.children.filter (isUsable source)) (tools source target root) := by
    rw [filter_isUsable hSource, tools]
    exact forall₂_filterMap _
  apply ((List.forall₂_and_left _ _).mpr ⟨hLabels, hCopies⟩).imp
  rintro original tool ⟨hLabel, hCopy⟩
  exact ⟨hCopy, tool?_label hCopy, isReducedTool_tool? hSource hLabel hCopy⟩

theorem tools_eq_nil_iff : tools source target root = [] ↔
    ∀ child ∈ root.children, isUsable source child = false := by
  have hPairs : List.Forall₂ _ (root.children.filter (isUsable source))
      (tools source target root) := forall₂_tools hSource
  rw [← List.length_eq_zero_iff, ← hPairs.length_eq, List.length_eq_zero_iff]
  simp [List.filter_eq_nil_iff]

end Usable

/-- A licence that is copied is used by a tool. -/
theorem isUsedLicense_license?
    (hLicense : license? source target (usedNames source target root) child = some copy) :
    IsUsedLicense target (tools source target root) copy := by
  obtain ⟨_, ⟨name, hUsed, hName⟩, rfl⟩ := license?_eq_some.mp hLicense
  obtain ⟨tool, hTool, hRef⟩ := List.mem_filterMap.mp hUsed
  exact ⟨rfl, build_children .., name, tool, hTool, (Option.filter_eq_some_iff.mp hRef).1, hName⟩

/-- A salvaged document has been reduced. -/
theorem isReduced_ofDocument? {family : Feed.Family} {salvaged : Tree}
    (hSource : root.name.space ≠ anySpace) (hSalvage : ofDocument? family root = some salvaged) :
    IsReduced family.latestSpace family.root root salvaged := by
  obtain ⟨_, _, hTools, rfl⟩ := ofDocument?_eq_some.mp hSalvage
  have hLicenses : ∀ license ∈ (root.children.filterMap (license? root.name.space family.latestSpace
      (usedNames root.name.space family.latestSpace root))).reverse,
      IsUsedLicense family.latestSpace (tools root.name.space family.latestSpace root) license ∧
        license.Everywhere fun inner => inner.name.space = family.latestSpace := by
    intro license hLicense
    obtain ⟨child, _, hCopy⟩ := List.mem_filterMap.mp (List.mem_reverse.mp hLicense)
    refine ⟨isUsedLicense_license? hCopy, ?_⟩
    obtain ⟨_, _, rfl⟩ := license?_eq_some.mp hCopy
    exact everywhere_build nofun
  refine ⟨rfl, everywhere_build fun child hChild => ?_, _, _, build_children .., hTools,
    forall₂_tools hSource, fun license hLicense => (hLicenses license hLicense).1⟩
  rcases List.mem_append.mp hChild with hLicense | hTool
  · exact (hLicenses child hLicense).2
  · obtain ⟨original, _, hCopy⟩ := List.mem_filterMap.mp hTool
    exact everywhere_tool? hCopy

theorem ofDocument?_eq_none {family : Feed.Family} : ofDocument? family root = none ↔
    ¬ (root.name.label = family.root ∧ (family.versionDigits? root.name.space).isSome = true) ∨
      tools root.name.space family.latestSpace root = [] := by
  rw [← not_iff_not, not_or, not_not, ← Ne, ← Ne, Option.ne_none_iff_exists']
  constructor
  · rintro ⟨salvaged, hSalvage⟩
    obtain ⟨hLabel, hVersion, hTools, _⟩ := ofDocument?_eq_some.mp hSalvage
    exact ⟨⟨hLabel, hVersion⟩, hTools⟩
  · rintro ⟨⟨hLabel, hVersion⟩, hTools⟩
    exact ⟨_, ofDocument?_eq_some.mpr ⟨hLabel, hVersion, hTools, rfl⟩⟩

/-- A root element is the one of a version just where its namespace has the digits of one. -/
theorem isRoot_iff (family : Feed.Family) : (root.name.label = family.root ∧
      (family.versionDigits? root.name.space).isSome = true) ↔
    ∃ version : Nat, 0 < version ∧ root.name = ⟨family.space version, family.root⟩ := by
  rw [family.isSome_versionDigits?]
  constructor
  · rintro ⟨hLabel, version, hPositive, hSpace⟩
    refine ⟨version, hPositive, ?_⟩
    rw [← hLabel, ← hSpace]
  · rintro ⟨version, hPositive, hName⟩
    rw [hName]
    exact ⟨rfl, version, hPositive, rfl⟩

/-- Whatever document can be read, salvaging it gives a reduced document of the newest version, or nothing.
There is nothing just where the root is none of a version, or no tool in it is usable. -/
theorem salvaged_isReduced {bytes : List UInt8} (hRead : Xml.read bytes = .ok root) :
    ∃ result, ofBytes .repository bytes = .ok result ∧
      (result = none ↔
        ¬ (∃ version : Nat, 0 < version ∧
          root.name = ⟨Feed.Family.repository.space version, Feed.Family.repository.root⟩) ∨
        ∀ child ∈ root.children, isUsable root.name.space child = false) ∧
      ∀ salvaged, result = some salvaged →
        IsReduced Feed.Family.repository.latestSpace Feed.Family.repository.root root salvaged := by
  have hFilled : (Feed.Kind.repository.isTrusted && !bytes.isEmpty) = true := by
    cases bytes with
    | nil => cases hRead
    | cons => rfl
  have hResult : ofBytes .repository bytes = .ok (ofDocument? Feed.Family.repository root) := by
    rw [ofBytes, if_pos hFilled, hRead]
    rfl
  refine ⟨_, hResult, ?_, ?_⟩
  · rw [ofDocument?_eq_none, ← isRoot_iff]
    -- Only below the root of a version is it known that the namespace is not the one for all.
    by_cases hRoot : root.name.label = Feed.Family.repository.root ∧
        (Feed.Family.repository.versionDigits? root.name.space).isSome = true
    · have hSource : root.name.space ≠ anySpace :=
        @ne_anySpace_of_version .repository _ hRoot.2
      rw [tools_eq_nil_iff hSource]
    · exact iff_of_true (.inl hRoot) (.inl hRoot)
  · intro salvaged hSalvage
    obtain ⟨_, hVersion, _, _⟩ := ofDocument?_eq_some.mp hSalvage
    exact isReduced_ofDocument? (@ne_anySpace_of_version .repository _ hVersion) hSalvage

/-- The later index is reduced to the platform tools that have an archive, and their licence. -/
theorem laterIndex_isReduced : Xml.read laterIndex = .ok laterRoot ∧
    ∃ salvaged, ofBytes .repository laterIndex = .ok (some salvaged) ∧
      IsReduced Feed.Family.repository.latestSpace Feed.Family.repository.root laterRoot salvaged := by
  obtain ⟨result, hResult, hNone, hReduced⟩ := salvaged_isReduced read_laterIndex
  have hUsable : ¬ ∀ child ∈ laterRoot.children, isUsable laterRoot.name.space child = false := by
    decide +kernel
  have hVersion : laterRoot.name =
      ⟨Feed.Family.repository.space (4 : Nat), Feed.Family.repository.root⟩ := by
    decide +kernel
  cases result with
  | none => exact absurd (hNone.mp rfl) (not_or.mpr ⟨not_not.mpr ⟨4, by decide, hVersion⟩, hUsable⟩)
  | some salvaged => exact ⟨read_laterIndex, salvaged, hResult, hReduced salvaged rfl⟩

end SdkFeed.Package.Salvage
