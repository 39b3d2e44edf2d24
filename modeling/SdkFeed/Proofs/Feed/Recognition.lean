import SdkFeed.Proofs.Feed.Detection
import SdkFeed.Proofs.Load.Agreement
import SdkFeed.Proofs.Schema.Validity

/-! Versions and the names of root elements. Where the tree of a document can be read, its version is
the one in the expanded name of its root element, so that a document which is valid for a version
declares this version and no other. The check has a reader of its own: what is said of valid documents
is said of those whose root element has one name for both readers. -/
namespace SdkFeed.Text

/-- The digits of a number that is not zero do not begin with a zero. -/
theorem toDigits_head {n : Nat} (hPositive : 0 < n) :
    ∃ first rest, Nat.toDigits 10 n = first :: rest ∧ first ≠ '0' := by
  induction n using Nat.strong_induction_on with
  | h n ih =>
      by_cases hSmall : n < 10
      · refine ⟨n.digitChar, [], Nat.toDigits_of_lt_base hSmall, ?_⟩
        intro hZero
        have hValue := Nat.toNat_digitChar_of_lt_ten hSmall
        rw [hZero] at hValue
        change 48 = 48 + n at hValue
        omega
      · obtain ⟨first, rest, hDigits, hFirst⟩ := ih (n / 10) (by omega) (by omega)
        refine ⟨first, rest ++ Nat.toDigits 10 (n % 10), ?_, hFirst⟩
        rw [← List.cons_append, ← hDigits,
          Nat.toDigits_append_toDigits (by decide) (by omega) (by omega)]
        congr 1
        omega

theorem toDigits_isDigit (n : Nat) : ∀ c ∈ Nat.toDigits 10 n, c.isDigit = true :=
  fun _ hIn => Nat.isDigit_of_mem_toDigits (by decide) (by decide) hIn

/-- The digits of a number are read as this number, unless there are too many of them. -/
theorem natural?_toDigits (n : Nat) : natural? (Nat.toDigits 10 n) =
    if (Nat.toDigits 10 n).length ≤ digitLimit then some n else none := by
  have hFilled : (Nat.toDigits 10 n).isEmpty = false := by
    simp [Nat.toDigits_ne_nil]
  have hAll : (Nat.toDigits 10 n).all Char.isDigit = true :=
    List.all_eq_true.mpr (toDigits_isDigit n)
  have hValue : ofDigits ((Nat.toDigits 10 n).map fun c => c.toNat - '0'.toNat) = n := by
    rw [ofDigits, ofDigitsTo, List.foldl_map]
    exact Nat.ofDigitChars_ten_toDigits
  rw [natural?, hFilled, hAll, hValue]
  by_cases hShort : (Nat.toDigits 10 n).length ≤ digitLimit
  · rw [if_pos hShort, if_neg (by simpa using hShort)]
  · rw [if_neg hShort, if_pos (by simpa using hShort)]

end SdkFeed.Text

namespace SdkFeed.Feed

open SdkFeed.Xml

/-- The namespace of a version ends with the digits of this version. -/
theorem Family.versionDigits?_of_space (family : Family) {version : Nat} (hPositive : 0 < version) :
    family.versionDigits? (family.space version) = some (Nat.toDigits 10 version) := by
  obtain ⟨first, rest, hDigits, hFirst⟩ := Text.toDigits_head hPositive
  have hSpace : family.spaceStem.toList ++ Nat.toDigits 10 version =
      (family.space version).toList := by
    rw [space, String.toList_append]
    congr 1
    change _ = (Nat.repr version).toList
    rw [Nat.toList_repr]
  have hAll := Text.toDigits_isDigit version
  rw [hDigits] at hSpace hAll ⊢
  rw [versionDigits?, List.isPrefixOf?_eq_some_iff_append_eq.mpr hSpace]
  simp [hFirst, List.all_eq_true.mpr hAll]

/-- The namespaces with a version are those of the positive numbers. -/
theorem Family.isSome_versionDigits? (family : Family) {space : String} :
    (family.versionDigits? space).isSome = true ↔
      ∃ version : Nat, 0 < version ∧ space = family.space version := by
  constructor
  · intro hSome
    obtain ⟨digits, hDigits⟩ := Option.isSome_iff_exists.mp hSome
    exact ⟨_, space_of_versionDigits? hDigits⟩
  · rintro ⟨version, hPositive, rfl⟩
    rw [versionDigits?_of_space family hPositive]
    rfl

/-- A name declares a version: it is the one of the root elements of this version, and the number has
not too many digits to be read. -/
structure Family.Declares (family : Family) (name : Name) (version : Nat) : Prop where
  name : name = ⟨family.space version, family.root⟩
  digits : (Nat.toDigits 10 version).length ≤ Text.digitLimit

variable {kind : Kind} {bytes : List UInt8} {version : Nat} {root : Tree}

theorem versionOfRoot_of_declared {raw : RawElement} (hPositive : 0 < version)
    (hName : (splitLabel raw.name).2 = kind.family.root)
    (hSpace : raw.attribute? (declarationOf (splitLabel raw.name).1) =
      some (kind.family.space version)) :
    versionOfRoot kind raw =
      if (Nat.toDigits 10 version).length ≤ Text.digitLimit then version else 0 := by
  simp only [versionOfRoot, hName, hSpace, Family.versionDigits?_of_space _ hPositive,
    Option.bind_some, Text.natural?_toDigits, bne_self_eq_false, Bool.false_eq_true, if_false]
  split
  · rfl
  · rfl

/-- The namespace of a version has to be declared. -/
theorem space_isDeclarable (kind : Kind) (hPositive : 0 < version) :
    kind.family.space version ≠ "" ∧ kind.family.space version ≠ xmlSpace := by
  have hDigits := kind.family.versionDigits?_of_space hPositive
  constructor
  · intro hEmpty
    rw [hEmpty] at hDigits
    cases kind <;> cases hDigits
  · intro hXml
    rw [hXml] at hDigits
    cases kind <;> cases hDigits

theorem exists_document (hRead : Xml.read bytes = .ok root) :
    ∃ document, Document.ofBytes bytes = .ok document := by
  obtain ⟨text, hText, hRest⟩ := bind_eq_ok.mp hRead
  cases hFound : Document.ofText? text with
  | none =>
      simp only [hFound] at hRest
      cases hRest
  | some document =>
      refine ⟨document, bind_eq_ok.mpr ⟨text, hText, ?_⟩⟩
      simp only [hFound]
      rfl

theorem detectVersion_of_document {document : Document}
    (hDocument : Document.ofBytes bytes = .ok document) :
    detectVersion kind bytes = .ok (versionOfRoot kind document.root) := by
  rw [detectVersion, hDocument]

/-- Where a document can be read, its version is the one that the name of its root element declares. -/
theorem detectVersion_eq_iff (hRead : Xml.read bytes = .ok root) (hPositive : 0 < version) :
    detectVersion kind bytes = .ok version ↔ kind.family.Declares root.name version := by
  obtain ⟨document, hDocument⟩ := exists_document hRead
  have hDetect : detectVersion kind bytes = .ok (versionOfRoot kind document.root) :=
    detectVersion_of_document hDocument
  -- The root has no parent to take a namespace from: a name in this one was declared by its own tag.
  have hDeclared (hName : root.name = ⟨kind.family.space version, kind.family.root⟩) :
      versionOfRoot kind document.root =
        if (Nat.toDigits 10 version).length ≤ Text.digitLimit then version else 0 := by
    obtain ⟨hSome, hOther⟩ := space_isDeclarable kind hPositive
    obtain ⟨hSpace, hLabel⟩ :=
      read_root_declares hDocument hRead (by rwa [hName]) (by rwa [hName])
    rw [hName] at hSpace hLabel
    exact versionOfRoot_of_declared hPositive hLabel hSpace
  constructor
  · intro hVersion
    have hName := read_root_of_version hVersion hPositive.ne' hRead
    refine ⟨hName, ?_⟩
    rw [hDetect, hDeclared hName] at hVersion
    by_contra hLong
    rw [if_neg hLong] at hVersion
    have hZero : 0 = version := Except.ok.inj hVersion
    omega
  · rintro ⟨hName, hShort⟩
    rw [hDetect, hDeclared hName, if_pos hShort]

/-- Every document that can be read has a version; it is 0 where no version is declared. -/
theorem detectVersion_eq_zero (hRead : Xml.read bytes = .ok root)
    (hNone : ∀ version, 0 < version → ¬kind.family.Declares root.name version) :
    detectVersion kind bytes = .ok 0 := by
  obtain ⟨document, hDocument⟩ := exists_document hRead
  have hDetect : detectVersion kind bytes = .ok (versionOfRoot kind document.root) :=
    detectVersion_of_document hDocument
  rcases Nat.eq_zero_or_pos (versionOfRoot kind document.root) with hZero | hPositive
  · rw [hDetect, hZero]
  · exact absurd ((detectVersion_eq_iff hRead hPositive).mp hDetect) (hNone _ hPositive)

open Schema

/-- A valid document has the version that it is valid for, if its root element has one name for both
readers. -/
theorem detectVersion_of_passes {validator : Validator} {url : String} {number : Int}
    (hRead : Xml.read bytes = .ok root)
    (hPasses : validator.Passes ⟨kind, number⟩ url bytes)
    (hSame : ∀ strict, Strict.read? bytes = some strict → strict.name = root.name) :
    ∃ version : Nat, (version : Int) = number ∧ detectVersion kind bytes = .ok version := by
  have hTable : ∀ edition ∈ Edition.published, 1 ≤ edition.version ∧
      (Nat.toDigits 10 edition.version.toNat).length ≤ Text.digitLimit := by decide
  obtain ⟨hPublished, strict, hStrict, hName, _⟩ := hPasses.exists_strict
  obtain ⟨hFirst, hShort⟩ : 1 ≤ number ∧
      (Nat.toDigits 10 number.toNat).length ≤ Text.digitLimit := hTable _ hPublished
  have hNumber : ((number.toNat : Nat) : Int) = number := Int.toNat_of_nonneg (by omega)
  have hPositive : 0 < number.toNat := by omega
  refine ⟨number.toNat, hNumber, (detectVersion_eq_iff hRead hPositive).mpr ⟨?_, hShort⟩⟩
  rw [← hSame strict hStrict, hName, Edition.space, hNumber]

/-- A document is valid for one edition at most. -/
theorem passes_unique {validator other : Validator} {edition next : Edition} {url address : String}
    (hPasses : validator.Passes edition url bytes) (hNext : other.Passes next address bytes) :
    edition = next := by
  have hTable : ∀ edition ∈ Edition.published, ∀ next ∈ Edition.published,
      edition.space = next.space → edition = next := by decide
  obtain ⟨hPublished, strict, hStrict, hName, _⟩ := hPasses.exists_strict
  obtain ⟨hOther, same, hSame, hNextName, _⟩ := hNext.exists_strict
  rw [hStrict] at hSame
  cases hSame
  rw [hName] at hNextName
  exact hTable _ hPublished _ hOther (Name.mk.inj hNextName).1

/-- The version of a document that can be read is the one in the name of its root element, and 0 where
there is none. A document that is valid for a version has this version, if its root element has one
name for both readers; and it is valid for no other. -/
theorem detectVersion_recognizes (kind : Kind) (hRead : Xml.read bytes = .ok root) :
    (∀ version : Nat, 0 < version →
      (detectVersion kind bytes = .ok version ↔ kind.family.Declares root.name version)) ∧
    ((∀ version : Nat, 0 < version → ¬kind.family.Declares root.name version) →
      detectVersion kind bytes = .ok 0) ∧
    (∀ (validator : Validator) (number : Int) (url : String),
      validator.Passes ⟨kind, number⟩ url bytes →
      (∀ strict, Strict.read? bytes = some strict → strict.name = root.name) →
      ∃ version : Nat, (version : Int) = number ∧ detectVersion kind bytes = .ok version) ∧
    ∀ (validator other : Validator) (edition next : Edition) (url address : String),
      validator.Passes edition url bytes → other.Passes next address bytes → edition = next := by
  refine ⟨fun version hPositive => detectVersion_eq_iff hRead hPositive, detectVersion_eq_zero hRead,
    ?_, ?_⟩
  · intro validator number url hPasses hSame
    exact detectVersion_of_passes hRead hPasses hSame
  · intro validator other edition next url address hPasses hNext
    exact passes_unique hPasses hNext

/-- The index of the tools is an index of the newest version for both readers. -/
theorem toolIndex_recognized : ∃ root, Xml.read Load.toolIndex = .ok root ∧
    (∀ version : Nat, 0 < version → (detectVersion .repository Load.toolIndex = .ok version ↔
      Family.repository.Declares root.name version)) ∧
    ((∀ version : Nat, 0 < version → ¬Family.repository.Declares root.name version) →
      detectVersion .repository Load.toolIndex = .ok 0) ∧
    (∀ (validator : Validator) (number : Int) (url : String),
      validator.Passes ⟨.repository, number⟩ url Load.toolIndex →
      (∀ strict, Strict.read? Load.toolIndex = some strict → strict.name = root.name) →
      ∃ version : Nat, (version : Int) = number ∧
        detectVersion .repository Load.toolIndex = .ok version) ∧
    ∀ (validator other : Validator) (edition next : Edition) (url address : String),
      validator.Passes edition url Load.toolIndex → other.Passes next address Load.toolIndex →
        edition = next := by
  have hReadable : (Xml.read Load.toolIndex).isOk = true := by decide +kernel
  obtain ⟨root, hRead⟩ := isOk_iff.mp hReadable
  exact ⟨root, hRead, detectVersion_recognizes .repository hRead⟩

/-- A document whose root element has no namespace but the one that its document type declares behind a
reference to a parameter entity that nothing declares. The reader of the check goes on after the
reference, the other one ignores what follows it:
`<!DOCTYPE sdk-repository [%p;<!ATTLIST sdk-repository xmlns CDATA "…/repository/3">]><sdk-repository/>`. -/
def dividedIndex : List UInt8 :=
  Load.asciiBytes
    ['<', '!', 'D', 'O', 'C', 'T', 'Y', 'P', 'E', ' ', 's', 'd', 'k', '-', 'r', 'e', 'p', 'o',
     's', 'i', 't', 'o', 'r', 'y', ' ', '[', '%', 'p', ';', '<', '!', 'A', 'T', 'T', 'L', 'I',
     'S', 'T', ' ', 's', 'd', 'k', '-', 'r', 'e', 'p', 'o', 's', 'i', 't', 'o', 'r', 'y', ' ',
     'x', 'm', 'l', 'n', 's', ' ', 'C', 'D', 'A', 'T', 'A', ' ', '"', 'h', 't', 't', 'p', ':',
     '/', '/', 's', 'c', 'h', 'e', 'm', 'a', 's', '.', 'a', 'n', 'd', 'r', 'o', 'i', 'd', '.',
     'c', 'o', 'm', '/', 's', 'd', 'k', '/', 'a', 'n', 'd', 'r', 'o', 'i', 'd', '/', 'r', 'e',
     'p', 'o', 's', 'i', 't', 'o', 'r', 'y', '/', '3', '"', '>', ']', '>', '<', 's', 'd', 'k',
     '-', 'r', 'e', 'p', 'o', 's', 'i', 't', 'o', 'r', 'y', '/', '>']

/-- A document that is valid for the newest version and has the version 0. -/
theorem dividedIndex_unrecognized :
    Validator.standard.Passes ⟨.repository, 3⟩ "https://sdk.test/repository.xml" dividedIndex ∧
    (∃ root, Xml.read dividedIndex = .ok root ∧ root.name = ⟨"", "sdk-repository"⟩) ∧
    detectVersion .repository dividedIndex = .ok 0 := by
  refine ⟨?_, ?_, by decide +kernel⟩
  · exact ⟨{ isValid := true, space := some (Edition.space ⟨.repository, 3⟩) }, by decide +kernel, rfl⟩
  · have hName : (Xml.read dividedIndex).toOption.map Element.name = some ⟨"", "sdk-repository"⟩ := by
      decide +kernel
    cases hRead : Xml.read dividedIndex with
    | error fault =>
        rw [hRead] at hName
        cases hName
    | ok root =>
        rw [hRead] at hName
        exact ⟨root, rfl, Option.some.inj hName⟩

end SdkFeed.Feed
