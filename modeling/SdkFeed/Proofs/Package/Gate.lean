import SdkFeed.Proofs.Package.Congruence
import SdkFeed.Proofs.Package.Stability
import SdkFeed.Proofs.Xml.Placement

/-! What untrusted sources can publish: add-ons and extras. Nothing else in their documents is looked at,
so documents that differ in nothing else are read alike, down to what is reported. -/
namespace SdkFeed.Package

open SdkFeed.Xml

/-- The elements that an untrusted source can say something with. -/
def openLabels : List String :=
  ["add-on", "extra", "license"]

/-- Whether a child of the root is one of these elements. -/
def isVisible (space : String) (child : Tree) : Bool :=
  child.name.space == space && openLabels.contains child.name.label

/-- What can be seen of a document from an untrusted source. -/
def visible (space : String) (root : Tree) : List Tree :=
  (root.children.filter (isVisible space)).map Element.unplaced

variable {kind : Kind} {space sourceUrl label : String} {licenses : Licenses}
  {root other child : Tree} {package : Package}

theorem kindOf?_addon (hKind : kindOf? .addon label = some kind) : kind = .addon ∨ kind = .extra := by
  have hOpen := (Option.filter_eq_some_iff.mp hKind).2
  cases kind with
  | addon => exact .inl rfl
  | extra => exact .inr rfl
  | platform | sample | doc | tool | platformTool => cases hOpen

theorem kindOf?_addon_label (hKind : kindOf? .addon label = some kind) : label ∈ openLabels := by
  have hName := Kind.name_of_ofName? (Option.filter_eq_some_iff.mp hKind).1
  subst hName
  rcases kindOf?_addon hKind with rfl | rfl <;> decide

/-- The packages of an untrusted source are add-ons and extras. -/
theorem ofDocument_addon_kind {packages : List Package}
    (hListed : (Index.ofDocument .addon space sourceUrl root).packages = some packages)
    (hPackage : package ∈ packages) : package.kind = .addon ∨ package.kind = .extra := by
  rw [Index.ofDocument] at hListed
  split at hListed
  · obtain rfl := Option.some.inj hListed
    obtain ⟨child, _, hKind⟩ := entries_kind ((sorted_perm _).mem_iff.mp hPackage)
    exact kindOf?_addon hKind
  · cases hListed

theorem isUnnoticed_unplaced (space : String) :
    IsUnnoticed Element.unplaced (fun _ => True) space space where
  keepsContent := Element.keepsContent_unplaced
  inside _ _ := trivial
  childrenNamed := by
    intro element _ label
    rw [childrenNamed, Element.keepsContent_unplaced.children, List.filter_map, childrenNamed]
    simp [Function.comp_def]

/-- A reader that sees nothing in hidden children and looks at no lines needs to see what is visible
alone. -/
theorem filterMap_visible {α : Type} {read : Tree → Option α}
    (hHidden : ∀ child, isVisible space child = false → read child = none)
    (hPlaced : ∀ child, read child.unplaced = read child) :
    (visible space root).filterMap read = root.children.filterMap read := by
  rw [visible, List.filterMap_map, List.filterMap_filter]
  apply List.filterMap_congr
  intro child _
  split
  · exact hPlaced child
  · rename_i hSeen
    exact (hHidden child (by simpa using hSeen)).symm

theorem licensesOf_visible (root : Tree) (space : String) : licensesOf root space =
    ((visible space root).filterMap fun child =>
      if isNamed child space "license" then
        (plainAttribute? child "id").map fun name => (name, child.innerText)
      else none).reverse := by
  rw [licensesOf, filterMap_visible]
  · intro child hHidden
    refine if_neg fun hNamed => ?_
    have hName := beq_iff_eq.mp (Bool.and_eq_true_iff.mp hNamed).2
    rw [isVisible, hName] at hHidden
    simp [openLabels] at hHidden
  · intro child
    rw [isNamed, Element.name_unplaced, (isUnnoticed_unplaced space).plainAttribute?,
      Element.keepsContent_unplaced.innerText, isNamed]

theorem Entry.ofChild?_unplaced (source : Feed.Kind) (child : Tree) :
    ofChild? source space licenses sourceUrl child.unplaced =
      ofChild? source space licenses sourceUrl child := by
  have hName : child.unplaced.name.label = child.name.label := by rw [Element.name_unplaced]
  have hRead := (isUnnoticed_unplaced space).ofElement trivial hName source licenses sourceUrl
  rw [ofChild?, Element.name_unplaced, hRead, ofChild?]

/-- A hidden child makes no entry, whatever it holds. -/
theorem Entry.ofChild?_hidden (hHidden : isVisible space child = false) :
    ofChild? .addon space licenses sourceUrl child = none := by
  rw [ofChild?]
  split
  · rfl
  · rename_i hSpace
    have hLabel : child.name.label ∉ openLabels := by
      simpa [isVisible, show child.name.space = space by simpa using hSpace] using hHidden
    cases hKind : kindOf? .addon child.name.label with
    | none => rw [ofElement, hKind]; rfl
    | some kind => exact absurd (kindOf?_addon_label hKind) hLabel

theorem entries_visible (root : Tree) (space sourceUrl : String) :
    entries .addon space sourceUrl root =
      (visible space root).filterMap (Entry.ofChild? .addon space (licensesOf root space) sourceUrl) := by
  rw [entries, filterMap_visible]
  · intro child hHidden
    exact Entry.ofChild?_hidden hHidden
  · exact Entry.ofChild?_unplaced .addon

/-- Two documents of an untrusted source of which the same can be seen are read alike. -/
theorem ofDocument_addon_congr (hName : root.name = other.name)
    (hVisible : visible space root = visible space other) (sourceUrl : String) :
    Index.ofDocument .addon space sourceUrl root = Index.ofDocument .addon space sourceUrl other := by
  have hLicenses : licensesOf root space = licensesOf other space := by
    rw [licensesOf_visible, hVisible, ← licensesOf_visible]
  have hEntries : entries .addon space sourceUrl root = entries .addon space sourceUrl other := by
    rw [entries_visible, hVisible, hLicenses, ← entries_visible]
  rw [Index.ofDocument, Index.ofDocument, isNamed, isNamed, hName, hEntries]

end SdkFeed.Package
