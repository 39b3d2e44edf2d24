import SdkFeed.Proofs.Package.Listing

/-! The parts of a package that was read, and the child of the document it was read from. -/
namespace SdkFeed.Package

variable {source : Feed.Kind} {kind : Kind} {element : Xml.Tree} {space sourceUrl : String}
  {licenses : Licenses} {package : Package}

/-- What was read for a package: the fields that all packages have, and those of its variant. -/
structure IsRead (element : Xml.Tree) (space sourceUrl : String) (variant : Except Fault Variant)
    (package : Package) : Prop where
  sourceUrl : package.sourceUrl = sourceUrl
  revision : requiredInteger element space "revision" = .ok package.revision
  archives : archivesOf element space = .ok package.archives
  variant : variant = .ok package.variant

theorem isRead_of_withCommon {variant : Except Fault Variant}
    (hPackage : withCommon element space licenses sourceUrl variant = .ok package) :
    IsRead element space sourceUrl variant package := by
  obtain ⟨revision, hRevision, hRest⟩ := bind_eq_ok.mp hPackage
  obtain ⟨archives, hArchives, hRest⟩ := bind_eq_ok.mp hRest
  obtain ⟨own, hOwn, hFields⟩ := bind_eq_ok.mp hRest
  cases hFields
  exact ⟨rfl, hRevision, hArchives, hOwn⟩

theorem isRead_of_ofElementOfKind
    (hPackage : ofElementOfKind kind element space licenses sourceUrl = .ok package) :
    ∃ libraries, IsRead element space sourceUrl (variantOf element space libraries kind) package := by
  rw [ofElementOfKind] at hPackage
  split at hPackage
  · obtain ⟨libraries, _, hCommon⟩ := bind_eq_ok.mp hPackage
    exact ⟨libraries, isRead_of_withCommon hCommon⟩
  · obtain ⟨libraries, _, hCommon⟩ := bind_eq_ok.mp hPackage
    exact ⟨libraries, isRead_of_withCommon hCommon⟩

/-- An element that describes a package names its kind, and all its parts were read from it. -/
theorem isRead_of_ofElement
    (hPackage : ofElement source space licenses sourceUrl element = .ok (some package)) :
    ∃ kind libraries, kindOf? source element.name.label = some kind ∧
      IsRead element space sourceUrl (variantOf element space libraries kind) package := by
  rw [ofElement] at hPackage
  split at hPackage
  · cases hPackage
  · rename_i kind hKind
    split at hPackage
    · rename_i found hFound
      obtain rfl := Option.some.inj (Except.ok.inj hPackage)
      obtain ⟨libraries, hRead⟩ := isRead_of_ofElementOfKind hFound
      exact ⟨kind, libraries, hKind, hRead⟩
    · cases hPackage

theorem Entry.ofChild?_eq_found {child : Xml.Tree}
    (hMade : Entry.ofChild? source space licenses sourceUrl child = some (.found package)) :
    child.name.space = space ∧
      ofElement source space licenses sourceUrl child = .ok (some package) := by
  rw [Entry.ofChild?] at hMade
  split at hMade
  · cases hMade
  · rename_i hSpace
    refine ⟨by simpa using hSpace, ?_⟩
    split at hMade
    · rename_i found hFound
      cases found with
      | none => cases hMade
      | some other =>
          cases hMade
          exact hFound
    · cases hMade

/-- Every package of a document was read from a child of its root. -/
theorem exists_child {root : Xml.Tree}
    (hListed : package ∈ (entries source space sourceUrl root).filterMap Entry.package?) :
    ∃ child ∈ root.children, child.name.space = space ∧
      ofElement source space (licensesOf root space) sourceUrl child = .ok (some package) := by
  obtain ⟨entry, hEntry, hPackage⟩ := List.mem_filterMap.mp hListed
  obtain ⟨child, hChild, hMade⟩ := List.mem_filterMap.mp hEntry
  cases entry with
  | faulty => cases hPackage
  | found other =>
      cases hPackage
      exact ⟨child, hChild, Entry.ofChild?_eq_found hMade⟩

/-- The packages of a document name the address they were read for. -/
theorem sourceUrl_of_listed {root : Xml.Tree}
    (hListed : package ∈ (entries source space sourceUrl root).filterMap Entry.package?) :
    package.sourceUrl = sourceUrl := by
  obtain ⟨child, _, _, hPackage⟩ := exists_child hListed
  obtain ⟨_, _, _, hRead⟩ := isRead_of_ofElement hPackage
  exact hRead.sourceUrl

end SdkFeed.Package
