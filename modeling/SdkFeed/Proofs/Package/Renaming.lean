import SdkFeed.Proofs.Package.Completeness
import SdkFeed.Proofs.Package.Congruence
import SdkFeed.Proofs.Schema.Growth

/-! Reading packages from a tree that was moved into another namespace. Where everything is in one
namespace, the readers find in the moved tree what they found before, so a valid document of one version
lists the same packages when it is moved to the next. -/
namespace SdkFeed.Package

open SdkFeed.Schema SdkFeed.Xml

/-- All elements of a tree are in one namespace. -/
def IsUniform (space : String) : Tree → Prop :=
  Element.Everywhere fun element => element.name.space = space

variable {source target : String} {element : Tree}

theorem IsUniform.space (hUniform : IsUniform source element) : element.name.space = source := by
  cases hUniform with
  | intro here _ => exact here

theorem isUnnoticed_moved :
    IsUnnoticed (Element.moved source target) (IsUniform source) source target where
  keepsContent := Element.keepsContent_moved
  inside hUniform hChild := (Element.everywhere_iff.mp hUniform).2 _ hChild
  childrenNamed := by
    intro element hUniform label
    obtain ⟨_, hInside⟩ := hUniform
    rw [childrenNamed, Element.children_moved, List.filter_map, childrenNamed]
    congr 1
    apply List.filter_congr
    intro child hChild
    obtain ⟨hSpace, _⟩ := hInside child hChild
    rw [Function.comp, Element.name_moved, Name.moved_of_space hSpace, hSpace]
    simp

theorem ofElement_moved (hUniform : IsUniform source element) (kind : Feed.Kind)
    (licenses : Licenses) (sourceUrl : String) :
    ofElement kind target licenses sourceUrl (element.moved source target) =
      ofElement kind source licenses sourceUrl element := by
  refine isUnnoticed_moved.ofElement hUniform ?_ kind licenses sourceUrl
  rw [Element.name_moved, Name.label_moved]

/-- A child makes the same entry after it was moved. -/
theorem Entry.ofChild?_moved (hUniform : IsUniform source element) (kind : Feed.Kind)
    (licenses : Licenses) (sourceUrl : String) :
    ofChild? kind target licenses sourceUrl (element.moved source target) =
      ofChild? kind source licenses sourceUrl element := by
  have hSpace := hUniform.space
  simp only [ofChild?, ofElement_moved hUniform, Element.name_moved, Name.moved_of_space hSpace,
    hSpace, bne_self_eq_false]

section

variable (hSource : source.isEmpty = false) (hTarget : target.isEmpty = false)
  (hUniform : IsUniform source element)

include hSource hTarget hUniform

theorem isNamed_moved (label : String) :
    isNamed (element.moved source target) target label = isNamed element source label := by
  have hSpace := hUniform.space
  have hBefore : element.name = ⟨source, element.name.label⟩ := by
    rw [← hSpace]
  rw [isNamed, isNamed, Element.name_moved, Name.moved_of_space hSpace, hBefore, hSource, hTarget,
    Bool.eq_iff_iff]
  simp

theorem licensesOf_moved :
    licensesOf (element.moved source target) target = licensesOf element source := by
  obtain ⟨_, hInside⟩ := hUniform
  rw [licensesOf, Element.children_moved, List.filterMap_map, licensesOf]
  congr 1
  apply List.filterMap_congr
  intro child hChild
  rw [Function.comp, isNamed_moved hSource hTarget (hInside child hChild), isUnnoticed_moved.plainAttribute?,
    Element.innerText_moved]

theorem entries_moved (kind : Feed.Kind) (sourceUrl : String) :
    entries kind target sourceUrl (element.moved source target) =
      entries kind source sourceUrl element := by
  rw [entries, licensesOf_moved hSource hTarget hUniform, Element.children_moved,
    List.filterMap_map, entries]
  obtain ⟨_, hInside⟩ := hUniform
  apply List.filterMap_congr
  intro child hChild
  exact Entry.ofChild?_moved (hInside child hChild) kind _ sourceUrl

/-- Everything that is read from a document is read from the moved document. -/
theorem ofDocument_moved (kind : Feed.Kind) (sourceUrl : String)
    (hNamed : isNamed element source kind.family.root = true) :
    Index.ofDocument kind target sourceUrl (element.moved source target) =
      Index.ofDocument kind source sourceUrl element := by
  rw [Index.ofDocument, Index.ofDocument, isNamed_moved hSource hTarget hUniform, hNamed, if_pos rfl,
    if_pos rfl, entries_moved hSource hTarget hUniform]

end

/-- A valid tree of one version, moved to the next version of its family, lists the same packages with the
same reports. It is valid for that version just where none of its elements names a type of the version
before as its own, and so is every document that is read as the moved tree. -/
theorem valid_index_grows {kind : Feed.Kind} {version : Int} {root : Tree} (sourceUrl : String)
    (hNext : (Edition.mk kind (version + 1)).isPublished = true)
    (hValid : (Edition.mk kind version).Validates root) :
    ((Edition.mk kind (version + 1)).Validates
        (root.moved (kind.family.space version) (kind.family.space (version + 1))) ↔
      root.Everywhere fun element => ¬Edition.NamesTypeOf (kind.family.space version) element) ∧
    Index.ofDocument kind (kind.family.space (version + 1)) sourceUrl
        (root.moved (kind.family.space version) (kind.family.space (version + 1))) =
      Index.ofDocument kind (kind.family.space version) sourceUrl root ∧
    ∀ bytes url, Strict.read? bytes =
        some (root.moved (kind.family.space version) (kind.family.space (version + 1))) →
      (Validator.standard.Passes ⟨kind, version + 1⟩ url bytes ↔
        root.Everywhere fun element => ¬Edition.NamesTypeOf (kind.family.space version) element) := by
  obtain ⟨hPublished, hName, hClears⟩ := Edition.validates_iff.mp hValid
  have hFollows : (Edition.mk kind version).IsFollowedBy ⟨kind, version + 1⟩ :=
    ⟨Edition.mem_published hPublished, Edition.mem_published hNext, rfl, rfl⟩
  have hSpaces : ∀ edition ∈ Edition.published, edition.space.isEmpty = false := by decide
  have hSource : (kind.family.space version).isEmpty = false := hSpaces _ hFollows.first
  have hTarget : (kind.family.space (version + 1)).isEmpty = false := hSpaces _ hFollows.second
  have hRoot : root.name = ⟨kind.family.space version, kind.family.root⟩ := hName
  have hSpace : root.name.space = kind.family.space version := by rw [hRoot]
  have hUniform : IsUniform (kind.family.space version) root := hClears.accepts.everywhere hSpace
  have hMovedName : (root.moved (kind.family.space version) (kind.family.space (version + 1))).name =
      ⟨kind.family.space (version + 1), kind.family.root⟩ := by
    rw [Element.name_moved, Name.moved_of_space hSpace, hRoot]
  have hMoved : (Edition.mk kind (version + 1)).Validates
      (root.moved (kind.family.space version) (kind.family.space (version + 1))) ↔
      root.Everywhere fun element => ¬Edition.NamesTypeOf (kind.family.space version) element := by
    rw [Edition.validates_iff, and_iff_right hNext]
    exact (and_iff_right hMovedName).trans (hClears.moved_iff hFollows)
  have hNamed : isNamed root (kind.family.space version) kind.family.root = true := by
    rw [isNamed, hRoot, hSource]
    exact beq_self_eq_true _
  refine ⟨hMoved, ofDocument_moved hSource hTarget hUniform kind sourceUrl hNamed, ?_⟩
  intro bytes url hRead
  rw [Edition.passes_iff_validates hRead]
  exact hMoved

/-- An index of the first version with one package, tools with an archive. -/
def firstIndex : Tree :=
  let space := Feed.Family.repository.space 1
  let leaf (label text : String) := Salvage.build space label [] (some text) []
  let archive := Salvage.build space "archive" [(⟨"", "os"⟩, " linux ")] none
    [leaf "url" "a", leaf "size" "1", Salvage.build space "checksum" [(⟨"", "type"⟩, "sha1")]
      (some "0123456789012345678901234567890123456789") []]
  Salvage.build space "sdk-repository" [] none
    [Salvage.build space "tool" [] none
      [leaf "revision" " +1 ", Salvage.build space "archives" [] none [archive]]]

/-- The index of the first version, moved to the second one. No element of it names its type. -/
theorem firstIndex_grows :
    (Edition.mk .repository (1 + 1)).isPublished = true ∧
    (Edition.mk .repository 1).Validates firstIndex ∧
    (firstIndex.Everywhere fun element =>
      ¬Edition.NamesTypeOf (Feed.Family.repository.space 1) element) ∧
    ((Edition.mk .repository (1 + 1)).Validates
        (firstIndex.moved (Feed.Family.repository.space 1) (Feed.Family.repository.space (1 + 1))) ↔
      firstIndex.Everywhere fun element =>
        ¬Edition.NamesTypeOf (Feed.Family.repository.space 1) element) ∧
    Index.ofDocument .repository (Feed.Family.repository.space (1 + 1)) "a"
        (firstIndex.moved (Feed.Family.repository.space 1) (Feed.Family.repository.space (1 + 1))) =
      Index.ofDocument .repository (Feed.Family.repository.space 1) "a" firstIndex ∧
    ∀ bytes url, Strict.read? bytes = some
        (firstIndex.moved (Feed.Family.repository.space 1) (Feed.Family.repository.space (1 + 1))) →
      (Validator.standard.Passes ⟨.repository, 1 + 1⟩ url bytes ↔
        firstIndex.Everywhere fun element =>
          ¬Edition.NamesTypeOf (Feed.Family.repository.space 1) element) := by
  have hNext : (Edition.mk .repository (1 + 1)).isPublished = true := by decide
  have hValid : (Edition.mk .repository 1).Validates firstIndex := by
    unfold Edition.Validates
    decide +kernel
  have hPlain : firstIndex.Everywhere fun element => element.attribute? typeName = none := by
    decide +kernel
  have hUntyped : firstIndex.Everywhere fun element =>
      ¬Edition.NamesTypeOf (Feed.Family.repository.space 1) element :=
    hPlain.imp fun element => Edition.not_namesTypeOf_of_untyped
  exact ⟨hNext, hValid, hUntyped, valid_index_grows "a" hNext hValid⟩

/-- An index of the first version with tools that name their type, or the same index with other elements:
those of the namespace that a prefix stands for, of the first version for `a` and of the second for
`b`. -/
def typedIndex (mark : String) : List UInt8 :=
  Load.asciiBytes (List.flatMap String.toList
    ["<", mark, ":sdk-repository xmlns:a=\"", Feed.Family.repository.space 1, "\" xmlns:b=\"",
      Feed.Family.repository.space 2, "\" xmlns:x=\"", instanceSpace, "\">", "<", mark,
      ":tool x:type=\"a:toolType\">", "<", mark, ":revision>1</", mark, ":revision>", "<", mark,
      ":archives><", mark, ":archive os=\"linux\">", "<", mark, ":size>1</", mark, ":size>", "<",
      mark, ":checksum type=\"sha1\">", "01234567890123456789", "01234567890123456789", "</", mark,
      ":checksum>", "<", mark, ":url>a</", mark, ":url>", "</", mark, ":archive></", mark,
      ":archives></", mark, ":tool></", mark, ":sdk-repository>"])

/-- A valid document of the first version that is not valid for the second one when its elements are
moved there: its tools name a type of the first version. -/
theorem typedIndex_outgrown : ∃ root, Strict.read? (typedIndex "a") = some root ∧
    (Edition.mk .repository 1).Validates root ∧
    (Edition.mk .repository (1 + 1)).isPublished = true ∧
    Strict.read? (typedIndex "b") = some
      (root.moved (Feed.Family.repository.space 1) (Feed.Family.repository.space (1 + 1))) ∧
    ¬(Edition.mk .repository (1 + 1)).Validates
      (root.moved (Feed.Family.repository.space 1) (Feed.Family.repository.space (1 + 1))) := by
  have hRead : (Strict.read? (typedIndex "a")).map (fun root =>
      decide (Verdict.ofFindings (Edition.documentFindings ⟨.repository, 1⟩ root) = .ok .valid ∧
        Strict.read? (typedIndex "b") = some
          (root.moved (Feed.Family.repository.space 1) (Feed.Family.repository.space (1 + 1))) ∧
        ¬Verdict.ofFindings (Edition.documentFindings ⟨.repository, 1 + 1⟩
          (root.moved (Feed.Family.repository.space 1) (Feed.Family.repository.space (1 + 1)))) =
            .ok .valid)) = some true := by
    decide +kernel
  obtain ⟨root, hRoot, hDecided⟩ := Option.map_eq_some_iff.mp hRead
  obtain ⟨hFirst, hMoved, hSecond⟩ := of_decide_eq_true hDecided
  have hPublished : (Edition.mk .repository 1).isPublished = true := by decide
  exact ⟨root, hRoot, ⟨hPublished, hFirst⟩, by decide, hMoved, fun hValid => hSecond hValid.2⟩

end SdkFeed.Package
