import Mathlib.Logic.Relation
import SdkFeed.Proofs.Load.Agreement
import SdkFeed.Proofs.Package.Congruence
import SdkFeed.Proofs.Package.Fault
import SdkFeed.Proofs.Rearrangement
import SdkFeed.Proofs.Xml.Equality

/-! How the description of a package may be laid out. Children of different names may stand in any
order, and children that are not read may be put in and taken out, on each level of the description;
what is read stays the same, be it a package or a fault. -/
namespace SdkFeed.Package

open SdkFeed.Xml

/-- What an element has to do with a package: it describes the package of a kind, or it is one of the
elements in it whose children are read as well. -/
inductive Role where
  | package (kind : Kind)
  | archives
  | archive
  | libraries
  | library

namespace Role

/-- The children that are read, by their names. -/
def labels : Role → List String
  | package kind => commonLabels ++ kind.ownLabels ++ ["uses-license", "obsolete", "archives"] ++
      if kind = .addon then ["libs"] else []
  | archives => ["archive"]
  | archive => ["url", "size", "checksum"]
  | libraries => ["lib"]
  | library => ["name", "description"]

/-- The role of the children with a name. -/
def inside? : Role → String → Option Role
  | package _, "archives" => some archives
  | package .addon, "libs" => some libraries
  | archives, "archive" => some archive
  | libraries, "lib" => some library
  | _, _ => none

end Role

/-- Whether a child is among those with a given name in a given namespace. -/
def isSelected (space label : String) (child : Tree) : Bool :=
  child.name.label == label && (space == anySpace || child.name.space == space)

/-- Whether a child of an element is read. -/
def isReadIn (space : String) (role : Role) (child : Tree) : Bool :=
  role.labels.any (isSelected space · child)

/-- Children that are looked for under one name. In a namespace these are the children with one name;
where any namespace will do, namespaces make no difference. -/
def AreRivals (space : String) (first second : Tree) : Prop :=
  first.name.label = second.name.label ∧
    (space = anySpace ∨ first.name.space = second.name.space)

theorem areRivals_iff_name_eq {space : String} (hSpace : space ≠ anySpace) {first second : Tree} :
    AreRivals space first second ↔ first.name = second.name := by
  rw [AreRivals, or_iff_right hSpace]
  constructor
  · rintro ⟨hLabel, hName⟩
    calc first.name = ⟨first.name.space, first.name.label⟩ := rfl
      _ = second.name := by rw [hName, hLabel]
  · intro hSame
    rw [hSame]
    exact ⟨rfl, rfl⟩

/-- Two elements with one start tag. -/
structure HasSameTag (before after : Tree) : Prop where
  name : after.name = before.name
  attributes : after.attributes = before.attributes

/-- A child that is not read is put into an element. -/
def IsInserted (space : String) (role : Role) (before after : Tree) : Prop :=
  ∃ earlier child later, isReadIn space role child = false ∧
    before.children = earlier ++ later ∧ after.children = earlier ++ child :: later

/-- A change in the layout of an element: its children are put into another order, a child that is not
read is put in or taken out, or the layout of one of the children is changed. -/
inductive Edit (space : String) : Role → Tree → Tree → Prop
  | permute {role before after} (tag : HasSameTag before after)
      (rearranged : Rearrangement (AreRivals space) before.children after.children) :
      Edit space role before after
  | insert {role before after} (tag : HasSameTag before after)
      (inserted : IsInserted space role before after) : Edit space role before after
  | delete {role before after} (tag : HasSameTag before after)
      (inserted : IsInserted space role after before) : Edit space role before after
  | inside {role inner before after} (earlier : List Tree) (child changed : Tree)
      (later : List Tree) (tag : HasSameTag before after)
      (own : role.inside? child.name.label = some inner) (edit : Edit space inner child changed)
      (members : before.children = earlier ++ child :: later)
      (others : after.children = earlier ++ changed :: later) : Edit space role before after

variable {source : Feed.Kind} {space sourceUrl label : String} {licenses : Licenses} {role : Role}
  {kind : Kind} {element before after : Tree}

theorem Edit.hasSameTag (hEdit : Edit space role before after) : HasSameTag before after := by
  cases hEdit <;> assumption

theorem childrenNamed_eq_filter :
    childrenNamed element space label = element.children.filter (isSelected space label) :=
  rfl

/-- Elements that are alike in all that is read of them in their role. -/
def ReadsAlike (space : String) : Role → Tree → Tree → Prop
  | .package kind, before, after => IsReadLike kind before space after space
  | .archives, before, after =>
    List.Forall₂ (fun first second => Archive.ofElement space first = Archive.ofElement space second)
      (childrenNamed before space "archive") (childrenNamed after space "archive")
  | .archive, before, after => Archive.ofElement space before = Archive.ofElement space after
  | .libraries, before, after =>
    List.Forall₂ (fun first second => ∀ label ∈ Role.library.labels,
        textOf first space label = textOf second space label)
      (childrenNamed before space "lib") (childrenNamed after space "lib")
  | .library, before, after =>
    ∀ label ∈ Role.library.labels, textOf before space label = textOf after space label

/-- Children with a name that are alike: in what is read of them in their role, or in everything if
they have none. -/
def AlikeInside (space : String) (role : Role) (label : String) (before after : Tree) : Prop :=
  match role.inside? label with
  | none => before = after
  | some inner => ReadsAlike space inner before after

/-- Elements with the same attributes whose children are alike, name by name. -/
structure AlikeByName (space : String) (role : Role) (before after : Tree) : Prop where
  attributes : after.attributes = before.attributes
  children : ∀ label ∈ role.labels, List.Forall₂ (AlikeInside space role label)
    (childrenNamed before space label) (childrenNamed after space label)

theorem ReadsAlike.refl (role : Role) (element : Tree) : ReadsAlike space role element element := by
  cases role with
  | package kind => exact ⟨fun _ _ => rfl, rfl, fun _ => rfl, rfl, rfl⟩
  | archives => exact List.forall₂_same.mpr fun _ _ => rfl
  | archive => rfl
  | libraries => exact List.forall₂_same.mpr fun _ _ _ _ => rfl
  | library => exact fun _ _ => rfl

theorem alikeInside_of_none (hLeaf : role.inside? label = none) :
    AlikeInside space role label = Eq := by
  funext first second
  rw [AlikeInside, hLeaf]

theorem alikeInside_of_some {inner : Role} (hInner : role.inside? label = some inner) :
    AlikeInside space role label = ReadsAlike space inner := by
  funext first second
  rw [AlikeInside, hInner]

theorem AlikeInside.refl (element : Tree) : AlikeInside space role label element element := by
  rw [AlikeInside]
  split
  · rfl
  · exact .refl _ element

theorem forall₂_alikeInside_refl (children : List Tree) :
    List.Forall₂ (AlikeInside space role label) children children :=
  List.forall₂_same.mpr fun child _ => .refl child

namespace AlikeByName

variable (hAlike : AlikeByName space role before after)

include hAlike

theorem childrenNamed_eq (hRead : label ∈ role.labels) (hLeaf : role.inside? label = none) :
    childrenNamed before space label = childrenNamed after space label := by
  have hChildren := hAlike.children label hRead
  rwa [alikeInside_of_none hLeaf, List.forall₂_eq_eq_eq] at hChildren

theorem childNamed?_eq (hRead : label ∈ role.labels) (hLeaf : role.inside? label = none) :
    childNamed? before space label = childNamed? after space label := by
  rw [childNamed?, hAlike.childrenNamed_eq hRead hLeaf, childNamed?]

theorem textOf_eq (hRead : label ∈ role.labels) (hLeaf : role.inside? label = none) :
    textOf before space label = textOf after space label := by
  rw [textOf, hAlike.childNamed?_eq hRead hLeaf, textOf]

theorem inner {inner : Role} (hRead : label ∈ role.labels)
    (hInner : role.inside? label = some inner) :
    List.Forall₂ (ReadsAlike space inner) (childrenNamed before space label)
      (childrenNamed after space label) := by
  have hChildren := hAlike.children label hRead
  rwa [alikeInside_of_some hInner] at hChildren

end AlikeByName

/-- Of children that are alike in pairs, the first ones are alike. -/
theorem childNamed?_of_forall₂ {alike : Tree → Tree → Prop} (hPairs : List.Forall₂ alike
      (childrenNamed before space label) (childrenNamed after space label)) :
    childNamed? before space label = none ∧ childNamed? after space label = none ∨
      ∃ first second, childNamed? before space label = some first ∧
        childNamed? after space label = some second ∧ alike first second := by
  rw [childNamed?, childNamed?]
  generalize childrenNamed before space label = members at hPairs ⊢
  generalize childrenNamed after space label = others at hPairs ⊢
  cases hPairs with
  | nil => exact .inl ⟨rfl, rfl⟩
  | cons hFirst _ => exact .inr ⟨_, _, rfl, rfl, hFirst⟩

theorem archivesOf_congr (hLists : List.Forall₂ (ReadsAlike space .archives)
      (childrenNamed before space "archives") (childrenNamed after space "archives")) :
    archivesOf before space = archivesOf after space := by
  rw [archivesOf, archivesOf]
  obtain ⟨hBefore, hAfter⟩ | ⟨first, second, hBefore, hAfter, hAlike⟩ := childNamed?_of_forall₂ hLists
  · rw [hBefore, hAfter]
  · rw [hBefore, hAfter]
    exact mapM_congr_of_forall₂ hAlike

theorem librariesOf_congr (hLists : List.Forall₂ (ReadsAlike space .libraries)
      (childrenNamed before space "libs") (childrenNamed after space "libs")) :
    librariesOf before space = librariesOf after space := by
  rw [librariesOf, librariesOf]
  obtain ⟨hBefore, hAfter⟩ | ⟨first, second, hBefore, hAfter, hAlike⟩ := childNamed?_of_forall₂ hLists
  · rw [hBefore, hAfter]
  · rw [hBefore, hAfter]
    refine mapM_congr_of_forall₂ (List.Forall₂.imp (fun member other hTexts => ?_) hAlike)
    simp only [requiredText, hTexts "name" (by decide), hTexts "description" (by decide)]

theorem inside?_text (hText : label ∈ commonLabels ++ kind.ownLabels) :
    (Role.package kind).inside? label = none := by
  revert label
  cases kind <;> decide

theorem isReadLike_of_alike (hAlike : AlikeByName space (.package kind) before after) :
    IsReadLike kind before space after space where
  texts label hText := hAlike.textOf_eq (by simp only [Role.labels]; grind) (inside?_text hText)
  archives := archivesOf_congr (hAlike.inner (by simp [Role.labels]) rfl)
  libraries hAddon := by
    subst hAddon
    exact librariesOf_congr (hAlike.inner (by decide) rfl)
  licenseRef := by
    have hFirst : childNamed? before space "uses-license" = childNamed? after space "uses-license" :=
      hAlike.childNamed?_eq (by simp [Role.labels]) (by cases kind <;> rfl)
    rw [licenseRefOf, hFirst, licenseRefOf]
  obsolete := by
    have hFirst : childNamed? before space "obsolete" = childNamed? after space "obsolete" :=
      hAlike.childNamed?_eq (by simp [Role.labels]) (by cases kind <;> rfl)
    rw [hFirst]

theorem archive_ofElement_of_alike (hAlike : AlikeByName space .archive before after) :
    Archive.ofElement space before = Archive.ofElement space after := by
  have hChecksum : childNamed? before space "checksum" = childNamed? after space "checksum" :=
    hAlike.childNamed?_eq (by decide) rfl
  have hUrl : textOf before space "url" = textOf after space "url" :=
    hAlike.textOf_eq (by decide) rfl
  have hSize : textOf before space "size" = textOf after space "size" :=
    hAlike.textOf_eq (by decide) rfl
  have hAttribute (label : String) : plainAttribute? after label = plainAttribute? before label := by
    rw [plainAttribute?, Element.attribute?, hAlike.attributes, plainAttribute?, Element.attribute?]
  simp only [Archive.ofElement, requiredText, optionalInteger, hChecksum, hUrl, hSize, hAttribute]

/-- What is read of an element in its role is fixed by its attributes and by its children, name by
name. -/
theorem readsAlike_of_alike (hAlike : AlikeByName space role before after) :
    ReadsAlike space role before after := by
  cases role with
  | package kind => exact isReadLike_of_alike hAlike
  | archives =>
      have hArchives : List.Forall₂ (ReadsAlike space .archive)
          (childrenNamed before space "archive") (childrenNamed after space "archive") :=
        hAlike.inner (by decide) rfl
      exact hArchives
  | archive => exact archive_ofElement_of_alike hAlike
  | libraries =>
      have hLibraries : List.Forall₂ (ReadsAlike space .library)
          (childrenNamed before space "lib") (childrenNamed after space "lib") :=
        hAlike.inner (by decide) rfl
      exact hLibraries
  | library =>
      intro label hRead
      refine hAlike.textOf_eq hRead ?_
      revert label
      decide

theorem alikeByName_of_same (hTag : HasSameTag before after)
    (hSame : ∀ label ∈ role.labels,
      childrenNamed after space label = childrenNamed before space label) :
    AlikeByName space role before after where
  attributes := hTag.attributes
  children label hRead := by
    rw [hSame label hRead]
    exact forall₂_alikeInside_refl _

theorem childrenNamed_rearranged
    (rearranged : Rearrangement (AreRivals space) before.children after.children) (label : String) :
    childrenNamed after space label = childrenNamed before space label := by
  refine rearranged.filter_eq fun first second hFirst hSecond => ?_
  simp only [Bool.and_eq_true, Bool.or_eq_true, beq_iff_eq] at hFirst hSecond
  rw [AreRivals]
  grind

theorem childrenNamed_inserted (hInserted : IsInserted space role before after)
    (hRead : label ∈ role.labels) :
    childrenNamed after space label = childrenNamed before space label := by
  obtain ⟨earlier, child, later, hUnread, hBefore, hAfter⟩ := hInserted
  have hOther : isSelected space label child = false := by
    simpa using List.any_eq_false.mp hUnread label hRead
  simp [childrenNamed_eq_filter, hBefore, hAfter, hOther]

/-- A change in the layout leaves what is read. -/
theorem Edit.readsAlike (hEdit : Edit space role before after) :
    ReadsAlike space role before after := by
  induction hEdit with
  | permute tag rearranged =>
      exact readsAlike_of_alike
        (alikeByName_of_same tag fun label _ => childrenNamed_rearranged rearranged label)
  | insert tag inserted =>
      exact readsAlike_of_alike
        (alikeByName_of_same tag fun label hRead => childrenNamed_inserted inserted hRead)
  | delete tag inserted =>
      exact readsAlike_of_alike
        (alikeByName_of_same tag fun label hRead => (childrenNamed_inserted inserted hRead).symm)
  | @inside role inner before after earlier child changed later tag own edit members others ih =>
      -- The changed child has the name it had, so it makes a difference under this name alone, and
      -- there it is alike in its role.
      refine readsAlike_of_alike ⟨tag.attributes, fun label _ => ?_⟩
      have hName : isSelected space label changed = isSelected space label child := by
        rw [isSelected, edit.hasSameTag.name, isSelected]
      rw [childrenNamed_eq_filter, childrenNamed_eq_filter, members, others, List.filter_append,
        List.filter_append]
      refine List.rel_append (forall₂_alikeInside_refl _) ?_
      rw [List.filter_cons, List.filter_cons, hName]
      split
      · rename_i hSelected
        obtain rfl : child.name.label = label :=
          beq_iff_eq.mp (Bool.and_eq_true_iff.mp hSelected).1
        refine .cons ?_ (forall₂_alikeInside_refl _)
        rw [AlikeInside, own]
        exact ih
      · exact forall₂_alikeInside_refl _

theorem ofElement_of_edit (hName : kind.name = before.name.label)
    (hEdit : Edit space (.package kind) before after) :
    ofElement source space licenses sourceUrl after =
      ofElement source space licenses sourceUrl before := by
  rw [ofElement, ofElement, hEdit.hasSameTag.name]
  cases hKind : kindOf? source before.name.label with
  | none => rfl
  | some own =>
      obtain ⟨hOwn, _⟩ := kindOf?_eq_some.mp hKind
      obtain rfl : own = kind := Kind.name_injective (hOwn.trans hName.symm)
      have hLike : IsReadLike own before space after space := hEdit.readsAlike
      have hSame : ofElementOfKind own after space licenses sourceUrl =
          ofElementOfKind own before space licenses sourceUrl :=
        (ofElementOfKind_congr hLike sourceUrl rfl).symm
      simp only [hSame]

/-- However the layout of an element that describes a package is changed, what is read is the same
package or the same fault. -/
theorem ofElement_of_edits {other : Tree} (hName : kind.name = element.name.label)
    (hEdits : Relation.ReflTransGen (Edit space (.package kind)) element other) :
    ofElement source space licenses sourceUrl other =
      ofElement source space licenses sourceUrl element := by
  -- That the element still describes a package of the kind is carried along.
  have hBoth : kind.name = other.name.label ∧ ofElement source space licenses sourceUrl other =
      ofElement source space licenses sourceUrl element := by
    induction hEdits with
    | refl => exact ⟨hName, rfl⟩
    | tail _ hEdit ih =>
        refine ⟨?_, (ofElement_of_edit ih.1 hEdit).trans ih.2⟩
        rw [hEdit.hasSameTag.name]
        exact ih.1
  exact hBoth.2

/-- An element with the given children and texts. -/
def elementWith (label : String) (children : List Tree) (texts : List String) : Tree :=
  .mk ⟨"s", label⟩ [] 1 (texts.map .text ++ children.map .child)

/-- A tool that has one archive with the given fields, and the given children behind its archives. -/
def toolWith (fields rest : List Tree) : Tree :=
  elementWith "tool" (elementWith "revision" [] ["1"] ::
    elementWith "archives" [elementWith "archive" fields []] [] :: rest) []

/-- A tool whose archive states its address first. -/
def plainTool : Tree :=
  toolWith [elementWith "url" [] ["a"], elementWith "size" [] ["2"]] []

/-- The same tool with the address behind the size, and with an element of another namespace. -/
def changedTool : Tree :=
  toolWith [elementWith "size" [] ["2"], elementWith "url" [] ["a"]] [.mk ⟨"t", "obsolete"⟩ [] 1 []]

/-- Two changes in layout lead from one to the other, so they are read alike. -/
theorem plainTool_edits : Kind.tool.name = plainTool.name.label ∧
    Relation.ReflTransGen (Edit "s" (.package .tool)) plainTool changedTool ∧
    ofElement .repository "s" [] "u" changedTool = ofElement .repository "s" [] "u" plainTool := by
  let url := elementWith "url" [] ["a"]
  let size := elementWith "size" [] ["2"]
  have hFree : ¬ AreRivals "s" url size := by
    rw [areRivals_iff_name_eq (by decide)]
    decide
  have hArchive : Edit "s" .archive (elementWith "archive" [url, size] [])
      (elementWith "archive" [size, url] []) :=
    .permute ⟨rfl, rfl⟩ (.swapFirst [] hFree)
  have hArchives : Edit "s" .archives
      (elementWith "archives" [elementWith "archive" [url, size] []] [])
      (elementWith "archives" [elementWith "archive" [size, url] []] []) :=
    .inside [] _ _ [] ⟨rfl, rfl⟩ rfl hArchive rfl rfl
  have hTool : Edit "s" (.package .tool) plainTool (toolWith [size, url] []) :=
    .inside [elementWith "revision" [] ["1"]] _ _ [] ⟨rfl, rfl⟩ rfl hArchives rfl rfl
  have hNote : Edit "s" (.package .tool) (toolWith [size, url] []) changedTool :=
    .insert ⟨rfl, rfl⟩
      ⟨_, .mk ⟨"t", "obsolete"⟩ [] 1 [], [], by decide, (List.append_nil _).symm, rfl⟩
  have hName : Kind.tool.name = plainTool.name.label := rfl
  have hEdits := (Relation.ReflTransGen.single hTool).tail hNote
  exact ⟨hName, hEdits, ofElement_of_edits hName hEdits⟩

/-- A tool that states its revision in two namespaces, one way around or the other. -/
def rivalIndex (first second : String) : List UInt8 :=
  Load.asciiBytes (List.flatMap String.toList [
    "<tool xmlns:a=\"a\" xmlns:b=\"b\">", first, second, "</tool>"])

/-- A statement of a revision. -/
def revisionIn (space text : String) : Tree :=
  .mk ⟨space, "revision"⟩ [] 1 [.text text]

/-- What is read from such a tool. -/
def rivalTool (first second : Tree) : Tree :=
  .mk ⟨"", "tool"⟩ [] 1 [.child first, .child second]

/-- Where any namespace will do, the order of children with different names matters if they differ in
their namespaces alone: the first of them is read. -/
theorem anySpace_tells_order :
    Xml.read (rivalIndex "<a:revision>1</a:revision>" "<b:revision>2</b:revision>") =
        .ok (rivalTool (revisionIn "a" "1") (revisionIn "b" "2")) ∧
      Xml.read (rivalIndex "<b:revision>2</b:revision>" "<a:revision>1</a:revision>") =
        .ok (rivalTool (revisionIn "b" "2") (revisionIn "a" "1")) ∧
      HasSameTag (rivalTool (revisionIn "a" "1") (revisionIn "b" "2"))
        (rivalTool (revisionIn "b" "2") (revisionIn "a" "1")) ∧
      Nonempty (Rearrangement (fun first second => first.name = second.name)
        (rivalTool (revisionIn "a" "1") (revisionIn "b" "2")).children
        (rivalTool (revisionIn "b" "2") (revisionIn "a" "1")).children) ∧
      ofElement .repository anySpace [] "" (rivalTool (revisionIn "b" "2") (revisionIn "a" "1")) ≠
        ofElement .repository anySpace [] "" (rivalTool (revisionIn "a" "1") (revisionIn "b" "2")) := by
  have hFree : ¬ (revisionIn "a" "1").name = (revisionIn "b" "2").name := by decide
  exact ⟨by decide +kernel, by decide +kernel, ⟨rfl, rfl⟩, ⟨.swapFirst [] hFree⟩, by decide +kernel⟩

end SdkFeed.Package
