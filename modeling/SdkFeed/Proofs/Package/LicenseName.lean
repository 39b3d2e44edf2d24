import SdkFeed.Proofs.Package.Declaration
import SdkFeed.Proofs.Package.Resolution

/-! Which licence a reference means. The schema collapses the white space in the name of a licence and
in a reference to it, so both mean the same token whatever stands around them. The reader of packages
looks for the reference as it is written among the names as they are written. So a package has the text
of the one licence that is meant just where both are written in the same way, and are not empty. -/
namespace SdkFeed.Package

open SdkFeed.Schema SdkFeed.Xml

/-- Whether an element is a licence whose name is the same token as a reference. -/
def isMeant (space ref : String) (element : Tree) : Bool :=
  isNamed element space "license" &&
    (plainAttribute? element "id").any fun name => collapsed name == collapsed ref

/-- The licences of a document that a reference means. -/
def licensesMeant (root : Tree) (space ref : String) : List Tree :=
  root.children.filter (isMeant space ref)

variable {edition : Edition} {root child element license : Tree} {space ref : String}
  {package : Package}

/-- A licence under the name that is written is meant. -/
theorem isMeant_of_isLicense (hLicense : isLicense space ref element = true) :
    isMeant space ref element = true := by
  obtain ⟨hNamed, hId⟩ := Bool.and_eq_true_iff.mp hLicense
  rw [isMeant, hNamed, beq_iff_eq.mp hId]
  exact BEq.rfl

theorem licensesNamed_eq_meant_filter : licensesNamed root space ref =
    (licensesMeant root space ref).filter (isLicense space ref) := by
  rw [licensesNamed, licensesMeant, List.filter_filter]
  apply List.filter_congr
  intro element _
  cases hLicense : isLicense space ref element with
  | false => rfl
  | true => rw [isMeant_of_isLicense hLicense]; rfl

/-- If a reference means one licence, this is the only one that may be found, and it is found under the
name that it is written with. -/
theorem licensesNamed_of_meant (hMeant : licensesMeant root space ref = [license]) :
    licensesNamed root space ref =
      if plainAttribute? license "id" = some ref then [license] else [] := by
  have hIn : license ∈ licensesMeant root space ref := by
    rw [hMeant]
    exact List.mem_cons_self
  have hNamed := (Bool.and_eq_true_iff.mp (List.mem_filter.mp hIn).2).1
  rw [licensesNamed_eq_meant_filter, hMeant, List.filter_singleton, isLicense, hNamed, Bool.true_and]
  by_cases hId : plainAttribute? license "id" = some ref
  · simp [hId]
  · simp [beq_false_of_ne hId, hId]

/-- What a package has of the one licence that its reference means. -/
structure HasMeant (root : Tree) (space : String) (package : Package) : Prop where
  /-- It has the text of that licence, or none. -/
  license : ∀ ref license, package.licenseRef = some ref → licensesMeant root space ref = [license] →
    package.license = if plainAttribute? license "id" = some ref ∧ ref ≠ "" then
      some (String.join license.pieces) else none
  /-- It has the text where there is no white space to collapse, and the reference is not empty. -/
  tidy : ∀ ref name license, package.licenseRef = some ref →
    licensesMeant root space ref = [license] → plainAttribute? license "id" = some name →
    IsTidy ref → IsTidy name → ref ≠ "" → package.license = some (String.join license.pieces)

theorem Resolves.hasMeant (hResolves : Resolves root space child package) :
    HasMeant root space package := by
  have hLicense : ∀ ref license, package.licenseRef = some ref →
      licensesMeant root space ref = [license] → package.license =
        if plainAttribute? license "id" = some ref ∧ ref ≠ "" then
          some (String.join license.pieces) else none := by
    intro ref license hRef hMeant
    by_cases hBlank : ref = ""
    · rw [if_neg fun hBoth => hBoth.2 hBlank]
      exact hResolves.absent.mpr (.inr (.inl (hBlank ▸ hRef)))
    · rw [hResolves.text ref hRef hBlank, licensesNamed_of_meant hMeant]
      by_cases hId : plainAttribute? license "id" = some ref <;> simp [hId, hBlank]
  refine ⟨hLicense, ?_⟩
  intro ref name license hRef hMeant hName hRefTidy hNameTidy hFilled
  have hIn : license ∈ licensesMeant root space ref := by
    rw [hMeant]
    exact List.mem_cons_self
  have hSame : collapsed name = collapsed ref := by
    have hAny := (Bool.and_eq_true_iff.mp (List.mem_filter.mp hIn).2).2
    rw [hName] at hAny
    exact beq_iff_eq.mp hAny
  have hWritten : name = ref := by rw [← hNameTidy, hSame, hRefTidy]
  rw [hLicense ref license hRef hMeant, if_pos ⟨hWritten ▸ hName, hFilled⟩]

/-- A licence with a name, or an element that refers to one licence at most, and by a name. -/
def IsTagged (space : String) (element : Tree) : Prop :=
  if element.name.label = "license" then (plainAttribute? element "id").isSome = true
  else (childrenNamed element space "uses-license").length ≤ 1 ∧
    ∀ use ∈ childrenNamed element space "uses-license", (plainAttribute? use "ref").isSome = true

/-- Where children come only once, there is at most one with a label. -/
theorem length_childrenNamed_le_one {form : Form} (hAccepts : edition.Accepts form element)
    (hOnce : (edition.content form).isOnce = true) (label : String) :
    (childrenNamed element space label).length ≤ 1 := by
  have hNodup := (hAccepts.admits.once hOnce).1
  calc (childrenNamed element space label).length
      ≤ (element.children.filter fun child => child.name.label == label).length := by
        apply (List.monotone_filter_right _ _).length_le
        intro child hChild
        exact (Bool.and_eq_true_iff.mp hChild).1
    _ = (labelsIn element.content).count label := by
        rw [labelsIn, List.count, List.countP_map, List.countP_eq_length_filter]
        rfl
    _ ≤ 1 := List.nodup_iff_count_le_one.mp hNodup label

theorem isTagged_of_accepts (hPublished : edition ∈ Edition.published)
    (hAccepts : edition.Accepts .index root) (hChild : child ∈ root.children) :
    IsTagged edition.space child := by
  have hTable : ∀ edition ∈ Edition.published, ∀ kind ∈ Kind.all,
      (edition.content (.package kind)).formOf? [] "uses-license" = some .licenseRef := by decide
  obtain ⟨_, form, hForm, hChildAccepts⟩ := hAccepts.admits.children child hChild
  rw [IsTagged]
  -- The root lists the kinds of the edition, and licences after them.
  rcases List.mem_append.mp (Content.mem_of_formOf? hForm) with hPackage | hLicense
  · obtain ⟨kind, _, hSame⟩ := List.mem_map.mp hPackage
    obtain ⟨hLabel, rfl⟩ := Prod.mk.inj hSame
    have hOther : kind.name ≠ "license" := by cases kind <;> decide
    rw [if_neg (hLabel ▸ hOther)]
    refine ⟨length_childrenNamed_le_one hChildAccepts rfl _, ?_⟩
    intro use hUse
    obtain ⟨useForm, hUseForm, hUseAccepts⟩ := accepts_of_mem_childrenNamed hChildAccepts hUse
    rw [hTable edition hPublished kind kind.mem_all] at hUseForm
    cases hUseForm
    exact Option.isSome_iff_exists.mpr (hUseAccepts.exists_attribute List.mem_cons_self rfl)
  · obtain ⟨hLabel, rfl⟩ := Prod.mk.inj (List.mem_singleton.mp hLicense)
    rw [if_pos hLabel]
    exact Option.isSome_iff_exists.mpr (hChildAccepts.exists_attribute List.mem_cons_self rfl)

/-- Every package of a document that the check accepts has the text of the licence that it means, if the
document has one such licence, and both write its name in the same way and not as an empty one. In such
a document every licence has a name, and a package refers to one licence at most. -/
theorem valid_licenses_meant {validator : Validator} {url : String} {bytes : List UInt8}
    (sourceUrl : String) (hPasses : validator.Passes edition url bytes)
    (hRead : Xml.read bytes = .ok root) :
    (∀ packages, (Index.ofDocument edition.kind edition.space sourceUrl root).packages =
        some packages →
      ∀ package ∈ packages, ∃ child ∈ root.children,
        found? edition.kind edition.space (licensesOf root edition.space) sourceUrl child =
          some package ∧
        package.licenseRef =
          (childNamed? child edition.space "uses-license").bind (plainAttribute? · "ref") ∧
        HasMeant root edition.space package) ∧
    (ReadersAgree bytes →
      (Index.ofDocument edition.kind edition.space sourceUrl root).packages.isSome = true ∧
      ∀ child ∈ root.children, IsTagged edition.space child) := by
  constructor
  · intro packages hPackages package hPackage
    have hNamed : isNamed root edition.space edition.kind.family.root = true := by
      by_contra hOther
      rw [Index.ofDocument, if_neg hOther] at hPackages
      cases hPackages
    rw [packages_of_isNamed sourceUrl hNamed] at hPackages
    cases hPackages
    obtain ⟨child, hChild, hFound⟩ := List.mem_filterMap.mp (mem_sorted.mp hPackage)
    have hResolves := resolves_of_found? hFound
    exact ⟨child, hChild, hFound, hResolves.ref, hResolves.hasMeant⟩
  · intro hAgree
    obtain ⟨hPublished, other, hOther, hName, hAccepts⟩ := hPasses.exists_root hAgree
    obtain rfl : other = root := Except.ok.inj (hOther.symm.trans hRead)
    refine ⟨?_, fun child hChild => isTagged_of_accepts hPublished hAccepts hChild⟩
    rw [ofDocument_of_root sourceUrl hPublished hName]
    rfl

/-- An index of the newest version with a licence, and with tools that refer to one. -/
def licensedIndex (name ref : String) : List UInt8 :=
  Load.asciiBytes (Load.indexTag ++ List.flatMap String.toList
    ["><license id=\"", name, "\">text</license>", "<tool><revision>1</revision>",
      "<uses-license ref=\"", ref, "\"/>", "<archives><archive os=\"linux\">", "<size>1</size>",
      "<checksum type=\"sha1\">", "01234567890123456789", "01234567890123456789", "</checksum>",
      "<url>a</url>", "</archive></archives></tool>", "</sdk-repository>"])

/-- The references and the licences of the packages that an index of the newest version lists. -/
def listedLicenses (bytes : List UInt8) : Option (List (Option String × Option String)) :=
  (Xml.read bytes).toOption.bind fun root =>
    (Index.ofDocument .repository (Edition.space ⟨.repository, 3⟩) "a" root).packages.map
      (·.map fun package => (package.licenseRef, package.license))

/-- The texts of the licences that a reference means in an index of the newest version. -/
def meantTexts (bytes : List UInt8) (ref : String) : Option (List String) :=
  (Xml.read bytes).toOption.map fun root =>
    (licensesMeant root (Edition.space ⟨.repository, 3⟩) ref).map Element.innerText

theorem licensedIndex_passes :
    Validator.standard.Passes ⟨.repository, 3⟩ "https://sdk.test/repository.xml"
      (licensedIndex "l" "l") :=
  ⟨{ isValid := true, space := some (Edition.space ⟨.repository, 3⟩) }, by decide +kernel, rfl⟩

/-- The tools have the licence that they refer to. -/
theorem licensedIndex_licenses_meant :
    Validator.standard.Passes ⟨.repository, 3⟩ "https://sdk.test/repository.xml"
      (licensedIndex "l" "l") ∧
    meantTexts (licensedIndex "l" "l") "l" = some ["text"] ∧
    listedLicenses (licensedIndex "l" "l") = some [(some "l", some "text")] ∧
    ∃ root, Xml.read (licensedIndex "l" "l") = .ok root ∧
      (∀ packages, (Index.ofDocument .repository (Edition.space ⟨.repository, 3⟩) "a" root).packages =
          some packages →
        ∀ package ∈ packages, ∃ child ∈ root.children,
          found? .repository (Edition.space ⟨.repository, 3⟩)
              (licensesOf root (Edition.space ⟨.repository, 3⟩)) "a" child = some package ∧
          package.licenseRef = (childNamed? child (Edition.space ⟨.repository, 3⟩)
            "uses-license").bind (plainAttribute? · "ref") ∧
          HasMeant root (Edition.space ⟨.repository, 3⟩) package) ∧
      (ReadersAgree (licensedIndex "l" "l") →
        (Index.ofDocument .repository (Edition.space ⟨.repository, 3⟩) "a" root).packages.isSome =
          true ∧
        ∀ child ∈ root.children, IsTagged (Edition.space ⟨.repository, 3⟩) child) := by
  have hRuns : (Xml.read (licensedIndex "l" "l")).isOk = true ∧
      meantTexts (licensedIndex "l" "l") "l" = some ["text"] ∧
      listedLicenses (licensedIndex "l" "l") = some [(some "l", some "text")] := by
    decide +kernel
  obtain ⟨hOk, hMeant, hListed⟩ := hRuns
  obtain ⟨root, hRead⟩ := isOk_iff.mp hOk
  exact ⟨licensedIndex_passes, hMeant, hListed, root, hRead,
    valid_licenses_meant "a" licensedIndex_passes hRead⟩

/-- Packages of valid documents without the text of the one licence that they mean: the first refers to it
with blanks around its name, the second by an empty name. -/
theorem meant_license_dropped :
    (Validator.standard.Passes ⟨.repository, 3⟩ "https://sdk.test/repository.xml"
        (licensedIndex "l" " l ") ∧
      ReadersAgree (licensedIndex "l" " l ") ∧
      meantTexts (licensedIndex "l" " l ") " l " = some ["text"] ∧
      listedLicenses (licensedIndex "l" " l ") = some [(some " l ", none)]) ∧
    (Validator.standard.Passes ⟨.repository, 3⟩ "https://sdk.test/repository.xml"
        (licensedIndex "" "") ∧
      ReadersAgree (licensedIndex "" "") ∧
      meantTexts (licensedIndex "" "") "" = some ["text"] ∧
      listedLicenses (licensedIndex "" "") = some [(some "", none)]) := by
  have hSpaced : Validator.standard.validate ⟨.repository, 3⟩ "https://sdk.test/repository.xml"
        (licensedIndex "l" " l ") =
          .ok { isValid := true, space := some (Edition.space ⟨.repository, 3⟩) } ∧
      (Strict.read? (licensedIndex "l" " l ")).map Element.bare =
        (Xml.read (licensedIndex "l" " l ")).toOption ∧
      meantTexts (licensedIndex "l" " l ") " l " = some ["text"] ∧
      listedLicenses (licensedIndex "l" " l ") = some [(some " l ", none)] := by
    decide +kernel
  have hNameless : Validator.standard.validate ⟨.repository, 3⟩ "https://sdk.test/repository.xml"
        (licensedIndex "" "") =
          .ok { isValid := true, space := some (Edition.space ⟨.repository, 3⟩) } ∧
      (Strict.read? (licensedIndex "" "")).map Element.bare =
        (Xml.read (licensedIndex "" "")).toOption ∧
      meantTexts (licensedIndex "" "") "" = some ["text"] ∧
      listedLicenses (licensedIndex "" "") = some [(some "", none)] := by
    decide +kernel
  exact ⟨⟨⟨_, hSpaced.1, rfl⟩, hSpaced.2⟩, ⟨_, hNameless.1, rfl⟩, hNameless.2⟩

end SdkFeed.Package
