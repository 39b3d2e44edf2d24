import Mathlib.Data.Option.Basic
import SdkFeed.Proofs.Package.Congruence
import SdkFeed.Proofs.Text.Trim

/-! Copies of tools. A copy has the leaves of its original, moved to the target namespace, with their
texts trimmed; so a reader of packages finds in it what it found in the original. -/
namespace SdkFeed.Package.Salvage

open SdkFeed.Xml

variable {source target label : String} {labels : List String} {element copy tool : Tree}

theorem build_name (space label : String) (attributes : List (Name × String)) (text : Option String)
    (children : List Tree) :
    (build space label attributes text children).name = ⟨space, label⟩ :=
  rfl

theorem leaf_name : (leaf target element).name = ⟨target, element.name.label⟩ :=
  rfl

theorem plainAttribute?_leaf : plainAttribute? (leaf target element) label =
    plainAttribute? element label :=
  rfl

theorem text?_build (space label : String) (attributes : List (Name × String)) (text : Option String) :
    (build space label attributes text []).text? = text := by
  cases text with
  | none => rfl
  | some words => exact congrArg some String.empty_append

/-- Trimming a text once more leaves it as it is, and a leaf without a text counts as blank. -/
theorem trimmedText_leaf : trimmedText (leaf target element) = trimmedText element := by
  have hAgain : Text.trim (trimmedText element) = trimmedText element := by
    rw [Text.trim_eq_self_iff, trimmedText, Text.trim, String.toList_ofList]
    exact Text.isTrimmed_trimChars _
  rw [leaf, trimmedText, text?_build]
  split
  · rename_i hBlank
    rw [String.isEmpty_iff.mp hBlank]
    rfl
  · exact hAgain

/-- A copy has the leaves of all children with the given labels that its original has. -/
def HasLeaves (source target : String) (labels : List String) (element copy : Tree) : Prop :=
  ∀ label ∈ labels,
    childrenNamed copy target label = (childrenNamed element source label).map (leaf target)

theorem hasLeaves_of_children (hSource : source ≠ anySpace) {rest : List Tree}
    (hChildren : copy.children = leaves source target labels element ++ rest)
    (hRest : ∀ child ∈ rest, child.name.label ∉ labels) :
    HasLeaves source target labels element copy := by
  intro label hLabel
  have hNone : rest.filter (fun child =>
      child.name.label == label && (target == anySpace || child.name.space == target)) = [] := by
    refine List.filter_eq_nil_iff.mpr fun child hChild => ?_
    have hOther : child.name.label ≠ label := fun hSame => hRest child hChild (hSame ▸ hLabel)
    simp [hOther]
  rw [childrenNamed, hChildren, List.filter_append, hNone, List.append_nil, leaves, List.filter_map,
    List.filter_filter, childrenNamed]
  congr 1
  apply List.filter_congr
  intro child _
  by_cases hNamed : child.name.label = label
  · simp [leaf_name, hNamed, hLabel, hSource]
  · simp [leaf_name, beq_eq_false_iff_ne.mpr hNamed]

section

variable (hLeaves : HasLeaves source target labels element copy) (hLabel : label ∈ labels)

include hLeaves hLabel

theorem childNamed?_of_hasLeaves :
    childNamed? copy target label = (childNamed? element source label).map (leaf target) := by
  rw [childNamed?, hLeaves label hLabel, List.head?_map, childNamed?]

theorem map_trimmedText_of_hasLeaves : (childNamed? copy target label).map trimmedText =
    (childNamed? element source label).map trimmedText := by
  rw [childNamed?_of_hasLeaves hLeaves hLabel]
  cases childNamed? element source label with
  | none => rfl
  | some child => exact congrArg some trimmedText_leaf

theorem textOf_of_hasLeaves : textOf copy target label = textOf element source label := by
  rw [textOf, map_trimmedText_of_hasLeaves hLeaves hLabel, textOf]

theorem bind_plainAttribute?_of_hasLeaves (name : String) :
    (childNamed? copy target label).bind (plainAttribute? · name) =
      (childNamed? element source label).bind (plainAttribute? · name) := by
  rw [childNamed?_of_hasLeaves hLeaves hLabel]
  cases childNamed? element source label with
  | none => rfl
  | some child => exact plainAttribute?_leaf

theorem isSome_of_hasLeaves :
    (childNamed? copy target label).isSome = (childNamed? element source label).isSome := by
  rw [childNamed?_of_hasLeaves hLeaves hLabel, Option.isSome_map]

end

theorem archive?_eq_some : archive? source target element = some copy ↔
    (childNamed? element source "url").isSome = true ∧
      copy = build target "archive" element.attributes none
        (leaves source target archiveFields element) := by
  rw [archive?]
  split
  · rename_i hUrl
    simp [hUrl, eq_comm]
  · rename_i hUrl
    simp [hUrl]

theorem ofElement_archive? (hSource : source ≠ anySpace)
    (hArchive : archive? source target element = some copy) :
    Archive.ofElement target copy = Archive.ofElement source element := by
  obtain ⟨_, rfl⟩ := archive?_eq_some.mp hArchive
  have hLeaves : HasLeaves source target archiveFields element (build target "archive"
      element.attributes none (leaves source target archiveFields element)) :=
    hasLeaves_of_children hSource ((build_children ..).trans (List.append_nil _).symm) nofun
  have hUrl := textOf_of_hasLeaves hLeaves (show "url" ∈ archiveFields by decide)
  have hSize := textOf_of_hasLeaves hLeaves (show "size" ∈ archiveFields by decide)
  have hChecksum := map_trimmedText_of_hasLeaves hLeaves (show "checksum" ∈ archiveFields by decide)
  have hType := bind_plainAttribute?_of_hasLeaves hLeaves (show "checksum" ∈ archiveFields by decide) "type"
  simp only [Archive.ofElement, requiredText, optionalInteger, hUrl, hSize, hChecksum, hType]
  rfl

/-- The copies of the archives in a list. -/
def archiveCopies (source target : String) (list : Tree) : List Tree :=
  (childrenNamed list source "archive").filterMap (archive? source target)

theorem tool?_eq_some : tool? source target tool = some copy ↔
    (childNamed? tool source "revision").isSome = true ∧
      ∃ list, childNamed? tool source "archives" = some list ∧
        archiveCopies source target list ≠ [] ∧
        copy = build target tool.name.label [] none (leaves source target toolFields tool ++
          [build target "archives" [] none (archiveCopies source target list)]) := by
  constructor
  · intro hTool
    obtain ⟨_, hRevision, hRest⟩ := Option.bind_eq_some_iff.mp hTool
    obtain ⟨list, hList, hRest⟩ := Option.bind_eq_some_iff.mp hRest
    obtain ⟨_, hSome, hCopy⟩ := Option.bind_eq_some_iff.mp hRest
    refine ⟨(Option.guard_eq_some' _).mp hRevision, list, hList, fun hNone => ?_,
      (Option.some.inj hCopy).symm⟩
    have hEmpty := (Option.guard_eq_some' _).mp hSome
    rw [← archiveCopies, hNone] at hEmpty
    cases hEmpty
  · rintro ⟨hRevision, list, hList, hCopies, rfl⟩
    have hSome : (!(archiveCopies source target list).isEmpty) = true := by
      rw [List.isEmpty_eq_false_iff.mpr hCopies]
      rfl
    refine Option.bind_eq_some_iff.mpr ⟨(), (Option.guard_eq_some' _).mpr hRevision, ?_⟩
    refine Option.bind_eq_some_iff.mpr ⟨list, hList, ?_⟩
    exact Option.bind_eq_some_iff.mpr ⟨(), (Option.guard_eq_some' _).mpr hSome, rfl⟩

/-- Every archive of a tool has an address. -/
def HasAddresses (source : String) (tool : Tree) : Prop :=
  ∀ list ∈ childNamed? tool source "archives",
    ∀ archive ∈ childrenNamed list source "archive", (childNamed? archive source "url").isSome = true

instance : Decidable (HasAddresses source tool) :=
  inferInstanceAs (Decidable (∀ list ∈ childNamed? tool source "archives",
    ∀ archive ∈ childrenNamed list source "archive", (childNamed? archive source "url").isSome = true))

theorem mapM_archive? (hSource : source ≠ anySpace) {archives : List Tree}
    (hUrls : ∀ archive ∈ archives, (childNamed? archive source "url").isSome = true) :
    (archives.filterMap (archive? source target)).mapM (Archive.ofElement target) =
      archives.mapM (Archive.ofElement source) := by
  induction archives with
  | nil => rfl
  | cons first rest ih =>
      obtain ⟨hFirst, hRest⟩ := List.forall_mem_cons.mp hUrls
      have hCopy : archive? source target first = some _ := archive?_eq_some.mpr ⟨hFirst, rfl⟩
      rw [List.filterMap_cons_some hCopy, List.mapM_cons, List.mapM_cons, ih hRest,
        ofElement_archive? hSource hCopy]

theorem childrenNamed_archiveCopies {list : Tree} (text : Option String) :
    childrenNamed (build target "archives" [] text (archiveCopies source target list)) target "archive" =
      archiveCopies source target list := by
  rw [childrenNamed, build_children]
  refine List.filter_eq_self.mpr fun copy hCopy => ?_
  obtain ⟨archive, _, hMade⟩ := List.mem_filterMap.mp hCopy
  obtain ⟨_, rfl⟩ := archive?_eq_some.mp hMade
  simp [build_name]

/-- The archives of a tool are read from its copy, if none of them was left out of it. -/
theorem archivesOf_tool? (hSource : source ≠ anySpace) (hUrls : HasAddresses source tool)
    (hTool : tool? source target tool = some copy) :
    archivesOf copy target = archivesOf tool source := by
  obtain ⟨_, list, hList, _, rfl⟩ := tool?_eq_some.mp hTool
  have hLeaves : (leaves source target toolFields tool).filter (fun child =>
      child.name.label == "archives" && (target == anySpace || child.name.space == target)) = [] := by
    refine List.filter_eq_nil_iff.mpr fun child hChild => ?_
    obtain ⟨original, hOriginal, rfl⟩ := List.mem_map.mp hChild
    have hKnown : original.name.label ∈ toolFields := by
      simpa using (Bool.and_eq_true_iff.mp (List.mem_filter.mp hOriginal).2).2
    have hOther : original.name.label ≠ "archives" := by
      rintro hSame
      rw [hSame] at hKnown
      exact absurd hKnown (by decide)
    simp [leaf_name, hOther]
  rw [archivesOf, archivesOf, hList, childNamed?, childrenNamed, build_children, List.filter_append,
    hLeaves]
  simp only [List.nil_append, build_name, BEq.rfl, Bool.or_true, Bool.and_self,
    List.filter_cons_of_pos, List.head?_cons, childrenNamed_archiveCopies]
  exact mapM_archive? hSource (hUrls list hList)

theorem hasLeaves_tool? (hSource : source ≠ anySpace) (hTool : tool? source target tool = some copy) :
    HasLeaves source target toolFields tool copy := by
  obtain ⟨_, list, _, _, rfl⟩ := tool?_eq_some.mp hTool
  refine hasLeaves_of_children hSource (build_children ..) fun child hChild => ?_
  obtain rfl := List.mem_singleton.mp hChild
  exact (by decide : "archives" ∉ toolFields)

theorem isReadLike_tool? {kind : Kind} (hSource : source ≠ anySpace) (hUrls : HasAddresses source tool)
    (hKind : kind = .tool ∨ kind = .platformTool) (hTool : tool? source target tool = some copy) :
    IsReadLike kind copy target tool source := by
  have hLeaves := hasLeaves_tool? hSource hTool
  have hFields : ∀ label ∈ commonLabels ++ kind.ownLabels, label ∈ toolFields := by
    rcases hKind with rfl | rfl <;> decide
  exact
    { texts := fun label hLabel => textOf_of_hasLeaves hLeaves (hFields label hLabel)
      archives := archivesOf_tool? hSource hUrls hTool
      libraries := by rcases hKind with rfl | rfl <;> exact nofun
      licenseRef := bind_plainAttribute?_of_hasLeaves hLeaves (by decide) "ref"
      obsolete := isSome_of_hasLeaves hLeaves (by decide) }

/-- The copy of a licence. -/
def licenseCopy (target : String) (license : Tree) : Tree :=
  build target "license" license.attributes (some license.innerText) []

theorem innerText_licenseCopy : (licenseCopy target element).innerText = element.innerText :=
  String.append_empty

theorem license?_eq (source target : String) (used : List String) (license : Tree) :
    license? source target used license =
      if isNamed license source "license" then
        ((plainAttribute? license "id").filter used.contains).map fun _ => licenseCopy target license
      else none := by
  by_cases hNamed : isNamed license source "license" = true
  · cases hName : plainAttribute? license "id" with
    | none => simp [license?, hNamed, hName]
    | some name =>
        by_cases hUsed : name ∈ used <;>
          simp [license?, hNamed, hName, guard, Option.filter, hUsed, licenseCopy]
  · simp [license?, guard, hNamed]

end SdkFeed.Package.Salvage
