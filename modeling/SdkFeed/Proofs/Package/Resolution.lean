import SdkFeed.Proofs.Package.Fault
import SdkFeed.Proofs.Package.License

/-! Which licence a package has. The name that its element gives is looked up among the licences of the
document, wherever these stand, and the last one declared under the name counts. Licences that no
package refers to make no difference. -/
namespace SdkFeed

namespace Xml.Element

variable {ν : Type}

mutual

/-- The pieces of text inside an element and the elements in it, in document order. -/
def pieces : Element ν → List String
  | mk _ _ _ content _ => contentPieces content

/-- The pieces of text inside a list of pieces of content. -/
def contentPieces : List (Item (Element ν)) → List String
  | [] => []
  | .text s :: rest => s :: contentPieces rest
  | .reference :: rest => contentPieces rest
  | .child element :: rest => pieces element ++ contentPieces rest

end

mutual

/-- The text of an element is all the pieces one after the other. -/
theorem innerText_eq_join : (element : Element ν) → element.innerText = String.join element.pieces
  | mk _ _ _ content _ => contentText_eq_join content

theorem contentText_eq_join : (content : List (Item (Element ν))) →
    contentText content = String.join (contentPieces content)
  | [] => rfl
  | .text s :: rest => by
    rw [contentText, contentPieces, String.join_cons, contentText_eq_join rest]
  | .reference :: rest => contentText_eq_join rest
  | .child element :: rest => by
    rw [contentText, contentPieces, String.join_append, innerText_eq_join element,
      contentText_eq_join rest]

end

end Xml.Element

namespace Package

open SdkFeed.Xml

/-- Whether an element is a licence with a name. -/
def isLicense (space name : String) (element : Tree) : Bool :=
  isNamed element space "license" && plainAttribute? element "id" == some name

/-- The licences of a document with a name, in document order. -/
def licensesNamed (root : Tree) (space name : String) : List Tree :=
  root.children.filter (isLicense space name)

variable {source : Feed.Kind} {space sourceUrl name : String} {root other child : Tree}
  {licenses others : Licenses} {package : Package} {ref : Option String}

theorem declaredTexts_eq_map :
    declaredTexts root space name = (licensesNamed root space name).map Element.innerText := by
  rw [declaredTexts, licensesNamed, ← List.filterMap_eq_map, List.filterMap_filter]
  rfl

/-- A reference stands for the last licence with its name. -/
theorem licenseOf_some (hName : name ≠ "") : licenseOf (licensesOf root space) (some name) =
    (licensesNamed root space name).getLast?.map fun license => String.join license.pieces := by
  have hFilled : ¬ name.isEmpty = true := fun hEmpty => hName (String.isEmpty_iff.mp hEmpty)
  rw [licenseOf_licensesOf, textsFor, if_neg hFilled, declaredTexts_eq_map, List.getLast?_map]
  exact congrArg (Option.map · _) (funext Element.innerText_eq_join)

theorem licenseOf_congr (hSame : ∀ name, ref = some name →
      licensesNamed other space name = licensesNamed root space name) :
    licenseOf (licensesOf other space) ref = licenseOf (licensesOf root space) ref := by
  cases ref with
  | none => rfl
  | some name =>
      by_cases hName : name = ""
      · subst hName
        rfl
      · rw [licenseOf_some hName, licenseOf_some hName, hSame name rfl]

/-- Reading does not depend on licences that the package read does not have. -/
theorem ofElement_congr_licenses (licenses : Licenses)
    (hSame : ∀ package, ofElement source space licenses sourceUrl child = .ok (some package) →
      licenseOf others package.licenseRef = licenseOf licenses package.licenseRef) :
    ofElement source space others sourceUrl child =
      ofElement source space licenses sourceUrl child := by
  cases hKind : kindOf? source child.name.label with
  | none => simp only [ofElement, hKind]
  | some kind =>
      simp only [ofElement, hKind, ofElementOfKind_eq, passing] at hSame ⊢
      cases hFirst : (checksOf kind child space).findSome? (Check.fault? space) with
      | some fault => rfl
      | none =>
          rw [hFirst] at hSame
          have hText := hSame _ rfl
          simp only [stated] at hText ⊢
          rw [hText]

/-- What an element says of the licence of its package, and what the document says of the licence. The
reference is that of the first element that makes one; the text is everything inside the last licence
with that name, and there is no text just where there is no name or no such licence. -/
structure Resolves (root : Tree) (space : String) (child : Tree) (package : Package) : Prop where
  ref : package.licenseRef =
    (childNamed? child space "uses-license").bind (plainAttribute? · "ref")
  text : ∀ name, package.licenseRef = some name → name ≠ "" → package.license =
    (licensesNamed root space name).getLast?.map fun license => String.join license.pieces
  absent : package.license = none ↔ package.licenseRef = none ∨ package.licenseRef = some "" ∨
    ∃ name, package.licenseRef = some name ∧ licensesNamed root space name = []

theorem resolves_of_found?
    (hFound : found? source space (licensesOf root space) sourceUrl child = some package) :
    Resolves root space child package := by
  obtain ⟨_, _, hRead⟩ := found?_eq_ok hFound
  obtain ⟨_, hRef, hLicense⟩ := ofElementOfKind_underLicenses hRead []
  refine ⟨hRef, ?_, ?_⟩
  · intro name hName hFilled
    rw [hLicense, hName, licenseOf_some hFilled]
  · rw [hLicense]
    cases hName : package.licenseRef with
    | none => exact iff_of_true rfl (.inl rfl)
    | some name =>
        by_cases hBlank : name = ""
        · subst hBlank
          exact iff_of_true rfl (.inr (.inl rfl))
        · rw [licenseOf_some hBlank]
          simp [hBlank]

/-- A licence that no package has: it is in another namespace, or without a name, or its name is none of
those that are referred to. -/
def isIdle (space : String) (names : List String) (child : Tree) : Bool :=
  child.name.label == "license" &&
    (child.name.space != space || !(plainAttribute? child "id").any names.contains)

/-- The names that packages refer to. -/
def licenseRefs (packages : List Package) : List String :=
  packages.filterMap Package.licenseRef

/-- The children of a root that are not idle. -/
def busyChildren (root : Tree) (space : String) (names : List String) : List Tree :=
  root.children.filter fun child => !isIdle space names child

theorem kindOf?_license (source : Feed.Kind) : kindOf? source "license" = none := by
  cases source <;> rfl

theorem Entry.ofChild?_of_isIdle {names : List String} (hIdle : isIdle space names child = true) :
    Entry.ofChild? source space licenses sourceUrl child = none := by
  have hLabel : child.name.label = "license" := beq_iff_eq.mp (Bool.and_eq_true_iff.mp hIdle).1
  rw [Entry.ofChild?, ofElement, hLabel, kindOf?_license]
  split <;> rfl

theorem filterMap_busyChildren (names : List String) :
    root.children.filterMap (Entry.ofChild? source space licenses sourceUrl) =
      (busyChildren root space names).filterMap
        (Entry.ofChild? source space licenses sourceUrl) := by
  rw [busyChildren, List.filterMap_filter]
  apply List.filterMap_congr
  intro child _
  by_cases hIdle : isIdle space names child = true
  · simp [hIdle, Entry.ofChild?_of_isIdle hIdle]
  · simp [hIdle]

theorem licensesNamed_busyChildren {names : List String} (hUsed : name ∈ names) :
    licensesNamed root space name = (busyChildren root space names).filter (isLicense space name) := by
  rw [licensesNamed, busyChildren, List.filter_filter]
  apply List.filter_congr
  intro child _
  by_cases hLicense : isLicense space name child = true
  · obtain ⟨hNamed, hId⟩ := Bool.and_eq_true_iff.mp hLicense
    have hName := beq_iff_eq.mp (Bool.and_eq_true_iff.mp hNamed).2
    have hBusy : isIdle space names child = false := by
      simp [isIdle, hName, beq_iff_eq.mp hId, hUsed]
    simp [hLicense, hBusy]
  · simp [hLicense]

/-- Two documents with one root that differ in idle licences alone make the same entries. -/
theorem entries_of_busyChildren {packages : List Package}
    (hPackages : (entries source space sourceUrl root).filterMap Entry.package? ⊆ packages)
    (hBusy : busyChildren other space (licenseRefs packages) =
      busyChildren root space (licenseRefs packages)) :
    entries source space sourceUrl other = entries source space sourceUrl root := by
  rw [entries, filterMap_busyChildren (licenseRefs packages), hBusy,
    ← filterMap_busyChildren (licenseRefs packages), entries]
  apply List.filterMap_congr
  intro child hChild
  rw [Entry.ofChild?, Entry.ofChild?]
  split
  · rfl
  · rename_i hSpace
    rw [ofElement_congr_licenses (licensesOf root space)]
    intro package hRead
    have hListed : package ∈ packages := by
      refine hPackages (List.mem_filterMap.mpr ⟨.found package, ?_, rfl⟩)
      refine List.mem_filterMap.mpr ⟨child, hChild, ?_⟩
      rw [Entry.ofChild?, if_neg hSpace, hRead]
      rfl
    apply licenseOf_congr
    intro name hName
    have hUsed : name ∈ licenseRefs packages := List.mem_filterMap.mpr ⟨package, hListed, hName⟩
    rw [licensesNamed_busyChildren hUsed, hBusy, ← licensesNamed_busyChildren hUsed]

theorem isNamed_congr (hName : other.name = root.name) (label : String) :
    isNamed other space label = isNamed root space label := by
  rw [isNamed, hName, isNamed]

/-- The packages of an index are those that its children describe, each with the licence that its
element and the document say. Licences may be added to the document, changed in it and removed from it
without any change of what is read, as long as no package refers to them. -/
theorem licenses_resolve {packages : List Package}
    (hPackages : (Index.ofDocument source space sourceUrl root).packages = some packages) :
    packages.Perm
        (root.children.filterMap (found? source space (licensesOf root space) sourceUrl)) ∧
      (∀ child ∈ root.children, ∀ package,
        found? source space (licensesOf root space) sourceUrl child = some package →
          Resolves root space child package) ∧
      ∀ other : Tree, other.name = root.name →
        busyChildren other space (licenseRefs packages) =
          busyChildren root space (licenseRefs packages) →
        Index.ofDocument source space sourceUrl other =
          Index.ofDocument source space sourceUrl root := by
  have hPerm : packages.Perm ((entries source space sourceUrl root).filterMap Entry.package?) := by
    rw [Index.ofDocument] at hPackages
    split at hPackages
    · obtain rfl := Option.some.inj hPackages
      exact sorted_perm _
    · cases hPackages
  refine ⟨filterMap_package? ▸ hPerm, fun child _ package => resolves_of_found?, ?_⟩
  intro other hName hBusy
  rw [Index.ofDocument, Index.ofDocument, isNamed_congr hName,
    entries_of_busyChildren hPerm.symm.subset hBusy, hName]

/-- An index with a tool between two licences of one name, the second with an element inside, and a licence
without a name. -/
def licensedRoot : Tree :=
  let license (attributes : List (Name × String)) (content : List (Item Tree)) : Item Tree :=
    .child (.mk ⟨"s", "license"⟩ attributes 1 content)
  .mk ⟨"s", "sdk-repository"⟩ [] 1
    [license [(⟨"", "id"⟩, "t")] [.text "old"],
     .child (.mk ⟨"s", "tool"⟩ [] 1
      [.child (.mk ⟨"s", "revision"⟩ [] 1 [.text "2"]),
       .child (.mk ⟨"s", "uses-license"⟩ [(⟨"", "ref"⟩, "t")] 1 [])]),
     license [(⟨"", "id"⟩, "t")]
      [.text " new ", .child (.mk ⟨"s", "b"⟩ [] 1 [.text "text"]), .text "\n"],
     license [] [.text "idle"]]

/-- The package of the tool. -/
def licensedTool : Package where
  sourceUrl := "u"
  revision := 2
  licenseRef := some "t"
  license := some " new text\n"
  variant := .tool 0

theorem packages_licensedRoot :
    (Index.ofDocument .repository "s" "u" licensedRoot).packages = some [licensedTool] := by
  have hFound : licensedRoot.children.filterMap
      (found? .repository "s" (licensesOf licensedRoot "s") "u") = [licensedTool] := by
    decide +kernel
  rw [packages_of_isNamed "u" (by decide), hFound, sorted, List.mergeSort_singleton]

/-- The tool has the second of its two licences. Without the licence that has no name, and with another
text in its place, the index is read as it was. -/
theorem licensedRoot_resolves :
    (∃ child ∈ licensedRoot.children,
      found? .repository "s" (licensesOf licensedRoot "s") "u" child = some licensedTool ∧
        Resolves licensedRoot "s" child licensedTool) ∧
    ∀ text, Index.ofDocument .repository "s" "u"
        (.mk licensedRoot.name [] 1 (.child (.mk ⟨"s", "license"⟩ [] 1 [.text text]) ::
          licensedRoot.content.take 3)) =
      Index.ofDocument .repository "s" "u" licensedRoot := by
  obtain ⟨hPerm, hResolves, hIdle⟩ := licenses_resolve packages_licensedRoot
  obtain ⟨child, hChild, hFound⟩ := List.mem_filterMap.mp (hPerm.subset List.mem_cons_self)
  exact ⟨⟨child, hChild, hFound, hResolves child hChild _ hFound⟩, fun text => hIdle _ rfl rfl⟩

end Package
end SdkFeed
