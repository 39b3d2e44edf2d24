import SdkFeed.Package.Salvage
import SdkFeed.Proofs.Success

/-! What is listed, and in which order. The keys of packages are in a total order, so a listing is
sorted by them; and a package is of the kind that its element describes, so a salvaged document
lists tools alone. -/
namespace SdkFeed.Package

namespace SortKey

theorem precedes_iff {a b : SortKey} :
    a.precedes b = true ↔ a.rank < b.rank ∨ a.rank = b.rank ∧ (a.level < b.level ∨
      a.level = b.level ∧ (a.name < b.name ∨ a.name = b.name ∧ a.revision < b.revision)) := by
  unfold precedes
  split
  · rename_i hRank
    rw [bne_iff_ne] at hRank
    simp only [decide_eq_true_eq, hRank, false_and, or_false]
  · rename_i hRank
    rw [bne_iff_ne, Decidable.not_not] at hRank
    split
    · rename_i hLevel
      rw [bne_iff_ne] at hLevel
      simp [hRank, hLevel]
    · rename_i hLevel
      rw [bne_iff_ne, Decidable.not_not] at hLevel
      split
      · rename_i hName
        rw [bne_iff_ne] at hName
        simp [hRank, hLevel, hName]
      · rename_i hName
        rw [bne_iff_ne, Decidable.not_not] at hName
        simp [hRank, hLevel, hName]

theorem precedes_asymm {a b : SortKey} (hBefore : a.precedes b = true) : b.precedes a = false := by
  rw [Bool.eq_false_iff]
  intro hAfter
  rw [precedes_iff] at hBefore hAfter
  grind

theorem precedes_trans {a b c : SortKey} (hFirst : b.precedes a = false)
    (hSecond : c.precedes b = false) : c.precedes a = false := by
  rw [Bool.eq_false_iff, Ne, precedes_iff] at *
  grind

end SortKey

/-- No package of a listing stands strictly before one that is listed ahead of it. -/
theorem sorted_pairwise (packages : List Package) :
    (sorted packages).Pairwise fun a b => b.precedes a = false := by
  have hOrdered : (sorted packages).Pairwise fun a b => (!b.precedes a) = true := by
    apply List.pairwise_mergeSort
    · intro a b c hFirst hSecond
      rw [Bool.not_eq_true'] at *
      exact SortKey.precedes_trans hFirst hSecond
    · intro a b
      cases hBefore : a.precedes b with
      | false => simp
      | true =>
          have hAfter : b.precedes a = false := SortKey.precedes_asymm hBefore
          simp [hAfter]
  exact hOrdered.imp fun hPair => by simpa using hPair

/-- Reading the fields of a variant gives one of the kind they are read for. -/
theorem variantOf_kind {element : Xml.Tree} {space : String} {libraries : List Library}
    {kind : Kind} {variant : Variant}
    (hVariant : variantOf element space libraries kind = .ok variant) : variant.kind = kind := by
  cases kind with
  | platform | addon =>
      obtain ⟨_, _, hSecond⟩ := bind_eq_ok.mp hVariant
      obtain ⟨_, _, hThird⟩ := bind_eq_ok.mp hSecond
      obtain ⟨_, _, hFields⟩ := bind_eq_ok.mp hThird
      cases hFields
      rfl
  | sample | extra =>
      obtain ⟨_, _, hSecond⟩ := bind_eq_ok.mp hVariant
      obtain ⟨_, _, hFields⟩ := bind_eq_ok.mp hSecond
      cases hFields
      rfl
  | doc | tool =>
      obtain ⟨_, _, hFields⟩ := bind_eq_ok.mp hVariant
      cases hFields
      rfl
  | platformTool =>
      cases hVariant
      rfl

theorem withCommon_variant {element : Xml.Tree} {space : String} {licenses : Licenses}
    {sourceUrl : String} {variant : Except Fault Variant} {package : Package}
    (hPackage : withCommon element space licenses sourceUrl variant = .ok package) :
    variant = .ok package.variant := by
  obtain ⟨revision, _, hArchives⟩ := bind_eq_ok.mp hPackage
  obtain ⟨archives, _, hRest⟩ := bind_eq_ok.mp hArchives
  obtain ⟨own, hOwn, hFields⟩ := bind_eq_ok.mp hRest
  rw [hOwn, ← Except.ok.inj hFields]

theorem ofElementOfKind_kind {kind : Kind} {element : Xml.Tree} {space : String}
    {licenses : Licenses} {sourceUrl : String} {package : Package}
    (hPackage : ofElementOfKind kind element space licenses sourceUrl = .ok package) :
    package.kind = kind := by
  rw [ofElementOfKind] at hPackage
  split at hPackage
  · obtain ⟨_, _, hCommon⟩ := bind_eq_ok.mp hPackage
    exact variantOf_kind (withCommon_variant hCommon)
  · obtain ⟨_, _, hCommon⟩ := bind_eq_ok.mp hPackage
    exact variantOf_kind (withCommon_variant hCommon)

theorem Kind.name_of_ofName? {label : String} {kind : Kind}
    (hNamed : Kind.ofName? label = some kind) : kind.name = label :=
  beq_iff_eq.mp (List.find?_some (p := fun kind : Kind => kind.name == label) hNamed)

/-- The package that an element describes is of the kind that its name tells. -/
theorem ofElement_kind {source : Feed.Kind} {space : String} {licenses : Licenses}
    {sourceUrl : String} {element : Xml.Tree} {package : Package}
    (hPackage : ofElement source space licenses sourceUrl element = .ok (some package)) :
    kindOf? source element.name.label = some package.kind := by
  rw [ofElement] at hPackage
  split at hPackage
  · cases hPackage
  · rename_i kind hKind
    split at hPackage
    · rename_i found hFound
      obtain rfl := Option.some.inj (Except.ok.inj hPackage)
      rw [hKind, ofElementOfKind_kind hFound]
    · cases hPackage

/-- The packages of a document come from children of its root. -/
theorem entries_kind {source : Feed.Kind} {space sourceUrl : String} {root : Xml.Tree}
    {package : Package}
    (hListed : package ∈ (entries source space sourceUrl root).filterMap Entry.package?) :
    ∃ child ∈ root.children, kindOf? source child.name.label = some package.kind := by
  obtain ⟨entry, hEntry, hPackage⟩ := List.mem_filterMap.mp hListed
  obtain ⟨child, hChild, hMade⟩ := List.mem_filterMap.mp hEntry
  refine ⟨child, hChild, ?_⟩
  rw [Entry.ofChild?] at hMade
  split at hMade
  · cases hMade
  · split at hMade
    · rename_i found hFound
      cases found with
      | none => cases hMade
      | some other =>
          obtain rfl := Option.some.inj hMade
          obtain rfl := Option.some.inj hPackage
          exact ofElement_kind hFound
    · obtain rfl := Option.some.inj hMade
      cases hPackage

namespace Salvage

theorem build_children (space label : String) (attributes : List (Xml.Name × String))
    (text : Option String) (children : List Xml.Tree) :
    (build space label attributes text children).children = children := by
  have hCopies : (children.map Xml.Item.child).filterMap Xml.Item.child? = children := by
    rw [List.filterMap_map]
    exact List.filterMap_some
  cases text with
  | none => exact hCopies
  | some words => exact hCopies

theorem tool?_label {source target : String} {tool copy : Xml.Tree}
    (hTool : tool? source target tool = some copy) : copy.name.label = tool.name.label := by
  obtain ⟨_, _, hList⟩ := Option.bind_eq_some_iff.mp hTool
  obtain ⟨list, _, hArchives⟩ := Option.bind_eq_some_iff.mp hList
  obtain ⟨_, _, hCopy⟩ := Option.bind_eq_some_iff.mp hArchives
  exact Option.some.inj hCopy ▸ rfl

theorem license?_label {source target : String} {used : List String} {child copy : Xml.Tree}
    (hLicense : license? source target used child = some copy) : copy.name.label = "license" := by
  obtain ⟨_, _, hName⟩ := Option.bind_eq_some_iff.mp hLicense
  obtain ⟨name, _, hUsed⟩ := Option.bind_eq_some_iff.mp hName
  obtain ⟨_, _, hCopy⟩ := Option.bind_eq_some_iff.mp hUsed
  exact Option.some.inj hCopy ▸ rfl

theorem tools_label {source target : String} {root copy : Xml.Tree}
    (hCopy : copy ∈ tools source target root) : copy.name.label ∈ toolLabels := by
  obtain ⟨tool, hTool, hMade⟩ := List.mem_filterMap.mp hCopy
  obtain ⟨_, hKnown⟩ := Bool.and_eq_true_iff.mp (List.mem_filter.mp hTool).2
  rw [tool?_label hMade]
  exact List.contains_iff_mem.mp hKnown

/-- A salvaged document holds licences and tools. -/
theorem ofDocument?_label {family : Feed.Family} {root salvaged child : Xml.Tree}
    (hSalvage : ofDocument? family root = some salvaged) (hChild : child ∈ salvaged.children) :
    child.name.label = "license" ∨ child.name.label ∈ toolLabels := by
  obtain ⟨_, _, hTools⟩ := Option.bind_eq_some_iff.mp hSalvage
  obtain ⟨_, _, hBuilt⟩ := Option.bind_eq_some_iff.mp hTools
  rw [← Option.some.inj hBuilt, build_children] at hChild
  rcases List.mem_append.mp hChild with hLicense | hTool
  · obtain ⟨license, _, hMade⟩ := List.mem_filterMap.mp (List.mem_reverse.mp hLicense)
    exact .inl (license?_label hMade)
  · exact .inr (tools_label hTool)

/-- A salvaged document lists tools alone. -/
theorem entries_isTool {source : Feed.Kind} {space sourceUrl : String} {family : Feed.Family}
    {root salvaged : Xml.Tree} {package : Package}
    (hSalvage : ofDocument? family root = some salvaged)
    (hListed : package ∈ (entries source space sourceUrl salvaged).filterMap Entry.package?) :
    package.kind = .tool ∨ package.kind = .platformTool := by
  obtain ⟨child, hChild, hKind⟩ := entries_kind hListed
  have hNamed := (Option.filter_eq_some_iff.mp hKind).1
  rcases ofDocument?_label hSalvage hChild with hLicense | hTool
  · rw [hLicense] at hNamed
    cases hNamed
  · simp only [toolLabels, List.mem_cons, List.not_mem_nil, or_false] at hTool
    rcases hTool with hLabel | hLabel
    · rw [hLabel] at hNamed
      exact .inl (Option.some.inj hNamed).symm
    · rw [hLabel] at hNamed
      exact .inr (Option.some.inj hNamed).symm

end Salvage

end SdkFeed.Package
