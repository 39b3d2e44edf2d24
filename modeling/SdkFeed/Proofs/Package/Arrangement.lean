import SdkFeed.Proofs.Package.Resolution
import SdkFeed.Proofs.Rearrangement

/-! In which order an index may have its children. Licences of one name must stay in their order, since
the last of them counts, and so must packages that are listed side by side. All else may be moved, and
licences in particular to before or after the packages that have them. -/
namespace SdkFeed.Package

open SdkFeed.Xml

variable {source : Feed.Kind} {space sourceUrl : String} {root other : Tree} {licenses : Licenses}

/-- Whether a child describes a package with a key. -/
def hasKey (source : Feed.Kind) (space : String) (licenses : Licenses) (sourceUrl : String)
    (key : SortKey) (child : Tree) : Bool :=
  (found? source space licenses sourceUrl child).any (·.sortKey == key)

theorem withKey_filterMap (key : SortKey) (children : List Tree) :
    withKey key (children.filterMap (found? source space licenses sourceUrl)) =
      (children.filter (hasKey source space licenses sourceUrl key)).filterMap
        (found? source space licenses sourceUrl) := by
  rw [withKey, List.filter_filterMap, List.filterMap_filter]
  apply List.filterMap_congr
  intro child _
  rw [hasKey]
  cases found? source space licenses sourceUrl child with
  | none => simp
  | some package => rfl

/-- Documents that declare the same for each name give an element the same package. -/
theorem found?_congr
    (hLicenses : ∀ name, licensesNamed other space name = licensesNamed root space name)
    (child : Tree) :
    found? source space (licensesOf other space) sourceUrl child =
      found? source space (licensesOf root space) sourceUrl child := by
  rw [found?, Entry.ofChild?, found?, Entry.ofChild?,
    ofElement_congr_licenses _ fun _ _ => licenseOf_congr fun name _ => hLicenses name]

/-- A listing is fixed by the order of the licences of each name and that of the packages of each key. -/
theorem packages_congr (hName : other.name = root.name)
    (hLicenses : ∀ name, licensesNamed other space name = licensesNamed root space name)
    (hKeys : ∀ key,
      other.children.filter (hasKey source space (licensesOf root space) sourceUrl key) =
        root.children.filter (hasKey source space (licensesOf root space) sourceUrl key)) :
    (Index.ofDocument source space sourceUrl other).packages =
      (Index.ofDocument source space sourceUrl root).packages := by
  -- Every child gives the package that it gave in the other document.
  have hFound : found? source space (licensesOf other space) sourceUrl =
      found? source space (licensesOf root space) sourceUrl := funext (found?_congr hLicenses)
  by_cases hNamed : isNamed root space source.family.root = true
  · have hOther : isNamed other space source.family.root = true :=
      (isNamed_congr hName _).trans hNamed
    rw [packages_of_isNamed sourceUrl hNamed, packages_of_isNamed sourceUrl hOther, hFound]
    refine congrArg some (eq_of_withKey_eq (sorted_pairwise _) (sorted_pairwise _) fun key => ?_)
    rw [withKey_sorted, withKey_sorted, withKey_filterMap, withKey_filterMap, hKeys]
  · rw [Index.ofDocument, Index.ofDocument, isNamed_congr hName, if_neg hNamed, if_neg hNamed]

/-- Children of a root that must stay in their order: licences with one name, and elements whose packages
have one key. -/
def IsTied (source : Feed.Kind) (space sourceUrl : String) (root first second : Tree) : Prop :=
  (∃ name, isLicense space name first = true ∧ isLicense space name second = true) ∨
    ∃ package other,
      found? source space (licensesOf root space) sourceUrl first = some package ∧
      found? source space (licensesOf root space) sourceUrl second = some other ∧
      package.sortKey = other.sortKey

theorem hasKey_eq_true {key : SortKey} {child : Tree} :
    hasKey source space licenses sourceUrl key child = true ↔
      ∃ package, found? source space licenses sourceUrl child = some package ∧
        package.sortKey = key := by
  simp [hasKey, Option.any_eq_true]

theorem hasKey_license {key : SortKey} {child : Tree}
    (hLicense : isNamed child space "license" = true) :
    hasKey source space licenses sourceUrl key child = false := by
  have hName : child.name = ⟨space, "license"⟩ := beq_iff_eq.mp (Bool.and_eq_true_iff.mp hLicense).2
  rw [hasKey, found?_eq_none_of_kindOf? (by rw [hName, kindOf?_license])]
  rfl

theorem licensesNamed_eq_filter (name : String) : licensesNamed root space name =
    (root.children.filter (isNamed · space "license")).filter
      (plainAttribute? · "id" == some name) := by
  rw [licensesNamed, List.filter_filter]
  exact congrArg (root.children.filter ·) (funext fun _ => Bool.and_comm _ _)

/-- Packages are found among the children that are not licences. -/
theorem filter_hasKey (key : SortKey) (children : List Tree) :
    children.filter (hasKey source space licenses sourceUrl key) =
      (children.filter (!isNamed · space "license")).filter
        (hasKey source space licenses sourceUrl key) := by
  rw [List.filter_filter]
  apply List.filter_congr
  intro child _
  by_cases hLicense : isNamed child space "license" = true
  · simp [hasKey_license hLicense]
  · simp [hLicense]

/-- The listing of an index does not depend on the order of its children, apart from the order of those
that are tied. So the licences may be moved to anywhere between the other children as long as both the
licences and the others keep their order. -/
theorem packages_of_rearranged (hName : other.name = root.name) :
    (Rearrangement (IsTied source space sourceUrl root) root.children other.children →
      (Index.ofDocument source space sourceUrl other).packages =
        (Index.ofDocument source space sourceUrl root).packages) ∧
    (other.children.filter (isNamed · space "license") =
        root.children.filter (isNamed · space "license") →
      other.children.filter (!isNamed · space "license") =
        root.children.filter (!isNamed · space "license") →
      (Index.ofDocument source space sourceUrl other).packages =
        (Index.ofDocument source space sourceUrl root).packages) := by
  constructor
  · intro rearranged
    refine packages_congr hName (fun name => ?_) (fun key => ?_)
    · exact rearranged.filter_eq fun first second hFirst hSecond => .inl ⟨name, hFirst, hSecond⟩
    · refine rearranged.filter_eq fun first second hFirst hSecond => .inr ?_
      obtain ⟨package, hFound, hKey⟩ := hasKey_eq_true.mp hFirst
      obtain ⟨next, hNext, hNextKey⟩ := hasKey_eq_true.mp hSecond
      exact ⟨package, next, hFound, hNext, hKey.trans hNextKey.symm⟩
  · intro hLicenses hOthers
    refine packages_congr hName (fun name => ?_) (fun key => ?_)
    · rw [licensesNamed_eq_filter, hLicenses, ← licensesNamed_eq_filter]
    · rw [filter_hasKey, hOthers, ← filter_hasKey]

/-- The licensed index with its tool in front of the licences. -/
def licensedLater : Tree :=
  .mk licensedRoot.name [] 1
    ((licensedRoot.content.drop 1).take 1 ++ licensedRoot.content.take 1 ++
      licensedRoot.content.drop 2)

/-- The first licence and the tool are not tied, so they may change places. -/
def licensedLater_rearrangement : Rearrangement (IsTied .repository "s" "u" licensedRoot)
    licensedRoot.children licensedLater.children :=
  .swapFirst _ (by
    rintro (⟨name, _, hSecond⟩ | ⟨package, _, hFirst, _⟩)
    · exact Bool.false_ne_true hSecond
    · cases hFirst)

/-- Both indices give the package of the tool. -/
theorem packages_licensedLater :
    licensedLater.name = licensedRoot.name ∧ licensedLater.children ≠ licensedRoot.children ∧
      (Index.ofDocument .repository "s" "u" licensedLater).packages = some [licensedTool] := by
  have hName : licensedLater.name = licensedRoot.name := rfl
  have hSame := (packages_of_rearranged hName).1 licensedLater_rearrangement
  exact ⟨hName, by decide, hSame.trans packages_licensedRoot⟩

end SdkFeed.Package
