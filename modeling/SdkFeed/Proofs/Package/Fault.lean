import SdkFeed.Proofs.Package.Listing
import SdkFeed.Proofs.Text.Numeral

/-! What can be wrong with the description of a package, and which fault is told. The reader makes its
checks in a fixed order, whatever the order of the document, and blames the first that fails. If none
does, the package is what the element states. -/
namespace SdkFeed.Package

open SdkFeed.Xml SdkFeed.Text

/-- A look at the text of a child: it must not be blank, or it must be a numeral unless it is blank, or
both. -/
structure Check where
  element : Tree
  label : String
  isRequired : Bool
  isNumber : Bool

namespace Check

def text (element : Tree) (label : String) : Check :=
  ⟨element, label, true, false⟩

def number (element : Tree) (label : String) : Check :=
  ⟨element, label, true, true⟩

def optionalNumber (element : Tree) (label : String) : Check :=
  ⟨element, label, false, true⟩

/-- A check finds a fault in a namespace. -/
inductive Finds (space : String) (check : Check) : Fault → Prop
  | missing (required : check.isRequired = true)
      (blank : textOf check.element space check.label = "") :
      Finds space check (.missing check.label)
  | invalid (number : check.isNumber = true)
      (filled : textOf check.element space check.label ≠ "")
      (strange : ∀ n, ¬ IsNumeral (textOf check.element space check.label).toList n) :
      Finds space check (.invalid check.label (textOf check.element space check.label))

/-- The fault that a check finds. -/
def fault? (space : String) (check : Check) : Option Fault :=
  let text := textOf check.element space check.label
  if text.isEmpty then if check.isRequired then some (.missing check.label) else none
  else if check.isNumber && (integer? text.toList).isNone then some (.invalid check.label text)
  else none

theorem integer?_eq_none {chars : List Char} : integer? chars = none ↔ ∀ n, ¬ IsNumeral chars n := by
  simp only [Option.eq_none_iff_forall_ne_some, ne_eq, integer?_eq_some]

theorem finds_iff {space : String} {check : Check} {fault : Fault} :
    check.Finds space fault ↔ check.fault? space = some fault := by
  constructor
  · intro hFinds
    cases hFinds with
    | missing required blank => simp [fault?, required, blank]
    | invalid number filled strange =>
        simp [fault?, number, filled, integer?_eq_none.mpr strange]
  · intro hFault
    simp only [fault?] at hFault
    split at hFault
    · rename_i hBlank
      split at hFault
      · rename_i hRequired
        obtain rfl := Option.some.inj hFault
        exact .missing hRequired (String.isEmpty_iff.mp hBlank)
      · cases hFault
    · rename_i hFilled
      split at hFault
      · rename_i hStrange
        obtain ⟨hNumber, hNone⟩ := Bool.and_eq_true_iff.mp hStrange
        obtain rfl := Option.some.inj hFault
        exact .invalid hNumber (by simpa using hFilled)
          (integer?_eq_none.mp (Option.isNone_iff_eq_none.mp hNone))
      · cases hFault

end Check

/-- A fault that one of the checks finds when none of those before it finds any. -/
def IsFirstFault (space : String) (checks : List Check) (fault : Fault) : Prop :=
  ∃ before check after, checks = before ++ check :: after ∧
    (∀ earlier ∈ before, ∀ other, ¬ earlier.Finds space other) ∧ check.Finds space fault

theorem isFirstFault_iff {space : String} {checks : List Check} {fault : Fault} :
    IsFirstFault space checks fault ↔ checks.findSome? (Check.fault? space) = some fault := by
  rw [List.findSome?_eq_some_iff]
  simp only [IsFirstFault, Check.finds_iff, Option.eq_none_iff_forall_ne_some, ne_eq]
  grind

theorem none_finds_iff {space : String} {checks : List Check} :
    (∀ check ∈ checks, ∀ fault, ¬ check.Finds space fault) ↔
      checks.findSome? (Check.fault? space) = none := by
  rw [List.findSome?_eq_none_iff]
  simp only [Check.finds_iff, Option.eq_none_iff_forall_ne_some, ne_eq]

/-- A value behind checks: the first fault that they find counts instead. -/
def passing {α : Type} (space : String) (checks : List Check) (value : α) : Except Fault α :=
  match checks.findSome? (Check.fault? space) with
  | some fault => .error fault
  | none => .ok value

section

variable {α β : Type} {space : String}

/-- Checks of one step come before those of the next. -/
theorem passing_bind {checks more : List Check} {value : α} {result : β} {next : α → Except Fault β}
    (hNext : next value = passing space more result) :
    (passing space checks value >>= next) = passing space (checks ++ more) result := by
  rw [passing, passing, List.findSome?_append]
  cases hFirst : checks.findSome? (Check.fault? space) with
  | some fault => rfl
  | none =>
      rw [Option.none_or]
      exact hNext

theorem passing_pure {checks : List Check} {value : α} {result : β} {next : α → Except Fault β}
    (hNext : next value = .ok result) :
    (passing space checks value >>= next) = passing space checks result := by
  calc (passing space checks value >>= next)
      = passing space (checks ++ []) result := passing_bind hNext
    _ = passing space checks result := by rw [List.append_nil]

/-- The members of a list are checked one after the other. -/
theorem mapM_passing {read : α → Except Fault β} {checks : α → List Check} {value : α → β}
    (hRead : ∀ member, read member = passing space (checks member) (value member))
    (members : List α) :
    members.mapM read = passing space (members.flatMap checks) (members.map value) := by
  induction members with
  | nil => rfl
  | cons first rest ih =>
      rw [List.mapM_cons, hRead, List.flatMap_cons, List.map_cons]
      refine passing_bind ?_
      rw [ih]
      exact passing_pure rfl

end

/-- The number that a child states; 0 if it states none. -/
def integerOf (element : Tree) (space label : String) : Int :=
  (integer? (textOf element space label).toList).getD 0

variable {space label sourceUrl : String} {element : Tree} {kind : Kind} {licenses : Licenses}

theorem requiredText_eq : requiredText element space label =
    passing space [.text element label] (textOf element space label) := by
  rw [requiredText, passing, List.findSome?_singleton, Check.fault?]
  cases hText : (textOf element space label).isEmpty <;> simp [Check.text, hText]

theorem integerOf_of_blank (hBlank : textOf element space label = "") :
    integerOf element space label = 0 := by
  rw [integerOf, hBlank]
  rfl

theorem optionalInteger_eq : optionalInteger element space label =
    passing space [.optionalNumber element label] (integerOf element space label) := by
  rw [optionalInteger, passing, List.findSome?_singleton, Check.fault?]
  by_cases hBlank : textOf element space label = ""
  · simp [Check.optionalNumber, hBlank, integerOf_of_blank hBlank]
  · cases hNumber : integer? (textOf element space label).toList <;>
      simp [Check.optionalNumber, hBlank, readInteger, integerOf, hNumber]

theorem requiredInteger_eq : requiredInteger element space label =
    passing space [.number element label] (integerOf element space label) := by
  rw [requiredInteger, requiredText, passing, List.findSome?_singleton, Check.fault?]
  by_cases hBlank : textOf element space label = ""
  · simp [Check.number, hBlank, bind, Except.bind]
  · cases hNumber : integer? (textOf element space label).toList <;>
      simp [Check.number, hBlank, readInteger, integerOf, hNumber, bind, Except.bind]

/-- The archives that an element lists, and the libraries. -/
def listed (element : Tree) (space list label : String) : List Tree :=
  match childNamed? element space list with
  | none => []
  | some found => childrenNamed found space label

/-- What the element of an archive states. -/
def Archive.stated (space : String) (element : Tree) : Archive where
  url := textOf element space "url"
  size := integerOf element space "size"
  checksum := ((childNamed? element space "checksum").map trimmedText).getD ""
  checksumType := ((childNamed? element space "checksum").bind (plainAttribute? · "type")).getD "sha1"
  os := (plainAttribute? element "os").getD "any"
  arch := (plainAttribute? element "arch").getD "any"

/-- The checks of an archive. -/
def archiveChecks (element : Tree) : List Check :=
  [.text element "url", .optionalNumber element "size"]

theorem Archive.ofElement_eq (element : Tree) : Archive.ofElement space element =
    passing space (archiveChecks element) (Archive.stated space element) := by
  rw [Archive.ofElement, requiredText_eq, optionalInteger_eq]
  exact passing_bind (passing_pure rfl)

theorem archivesOf_eq : archivesOf element space =
    passing space ((listed element space "archives" "archive").flatMap archiveChecks)
      ((listed element space "archives" "archive").map (Archive.stated space)) := by
  rw [archivesOf, listed]
  cases childNamed? element space "archives" with
  | none => rfl
  | some list => exact mapM_passing Archive.ofElement_eq _

/-- What the element of a library states. -/
def Library.stated (space : String) (element : Tree) : Library :=
  ⟨textOf element space "name", textOf element space "description"⟩

theorem librariesOf_eq : librariesOf element space =
    passing space ((listed element space "libs" "lib").flatMap fun library => [.text library "name"])
      ((listed element space "libs" "lib").map (Library.stated space)) := by
  rw [librariesOf, listed]
  cases childNamed? element space "libs" with
  | none => rfl
  | some list =>
      refine mapM_passing (fun library => ?_) _
      rw [requiredText_eq]
      exact passing_pure rfl

/-- The checks of the fields that packages of one kind alone have. -/
def ownChecks (element : Tree) : Kind → List Check
  | .platform =>
    [.text element "version", .number element "api-level", .optionalNumber element "min-tools-rev"]
  | .addon => [.text element "name", .text element "vendor", .number element "api-level"]
  | .sample => [.number element "api-level", .optionalNumber element "min-tools-rev"]
  | .doc => [.number element "api-level"]
  | .tool => [.optionalNumber element "min-platform-tools-rev"]
  | .platformTool => []
  | .extra => [.text element "path", .optionalNumber element "min-tools-rev"]

/-- What an element states of the fields that packages of one kind alone have. -/
def Variant.stated (element : Tree) (space : String) : Kind → Variant
  | .platform => .platform (textOf element space "version") (integerOf element space "api-level")
    (textOf element space "codename") (integerOf element space "min-tools-rev")
  | .addon => .addon (textOf element space "name") (textOf element space "vendor")
    (integerOf element space "api-level") (textOf element space "codename")
    ((listed element space "libs" "lib").map (Library.stated space))
  | .sample => .sample (integerOf element space "api-level") (textOf element space "codename")
    (integerOf element space "min-tools-rev")
  | .doc => .doc (integerOf element space "api-level") (textOf element space "codename")
  | .tool => .tool (integerOf element space "min-platform-tools-rev")
  | .platformTool => .platformTool
  | .extra => .extra (textOf element space "vendor") (textOf element space "path")
    (integerOf element space "min-tools-rev")

theorem variantOf_eq {libraries : List Library}
    (hLibraries : kind = .addon →
      libraries = (listed element space "libs" "lib").map (Library.stated space)) :
    variantOf element space libraries kind =
      passing space (ownChecks element kind) (Variant.stated element space kind) := by
  cases kind with
  | platform =>
      rw [variantOf, requiredText_eq, requiredInteger_eq, optionalInteger_eq]
      exact passing_bind (passing_bind (passing_pure rfl))
  | addon =>
      rw [variantOf, requiredText_eq, requiredText_eq, requiredInteger_eq, hLibraries rfl]
      exact passing_bind (passing_bind (passing_pure rfl))
  | sample =>
      rw [variantOf, requiredInteger_eq, optionalInteger_eq]
      exact passing_bind (passing_pure rfl)
  | doc =>
      rw [variantOf, requiredInteger_eq]
      exact passing_pure rfl
  | tool =>
      rw [variantOf, optionalInteger_eq]
      exact passing_pure rfl
  | platformTool => rfl
  | extra =>
      rw [variantOf, requiredText_eq, optionalInteger_eq]
      exact passing_bind (passing_pure rfl)

/-- The package that an element states. -/
def stated (kind : Kind) (element : Tree) (space : String) (licenses : Licenses)
    (sourceUrl : String) : Package where
  sourceUrl := sourceUrl
  revision := integerOf element space "revision"
  description := textOf element space "description"
  descriptionUrl := textOf element space "desc-url"
  releaseNote := textOf element space "release-note"
  releaseUrl := textOf element space "release-url"
  isObsolete := (childNamed? element space "obsolete").isSome
  licenseRef := (childNamed? element space "uses-license").bind (plainAttribute? · "ref")
  license := licenseOf licenses
    ((childNamed? element space "uses-license").bind (plainAttribute? · "ref"))
  archives := (listed element space "archives" "archive").map (Archive.stated space)
  variant := Variant.stated element space kind

/-- All checks of a package in the order in which they are made: the libraries of an add-on, the
revision, the archives one by one, and the fields of its own. -/
def checksOf (kind : Kind) (element : Tree) (space : String) : List Check :=
  (if kind = .addon then
    (listed element space "libs" "lib").flatMap fun library => [.text library "name"] else []) ++
  ([.number element "revision"] ++
    ((listed element space "archives" "archive").flatMap archiveChecks ++ ownChecks element kind))

theorem withCommon_eq {libraries : List Library}
    (hLibraries : kind = .addon →
      libraries = (listed element space "libs" "lib").map (Library.stated space)) :
    withCommon element space licenses sourceUrl (variantOf element space libraries kind) =
      passing space ([.number element "revision"] ++
          ((listed element space "archives" "archive").flatMap archiveChecks ++
            ownChecks element kind))
        (stated kind element space licenses sourceUrl) := by
  rw [withCommon, requiredInteger_eq, archivesOf_eq, variantOf_eq hLibraries]
  exact passing_bind (passing_bind (passing_pure rfl))

/-- Reading is checking, and then taking what is stated. -/
theorem ofElementOfKind_eq : ofElementOfKind kind element space licenses sourceUrl =
    passing space (checksOf kind element space) (stated kind element space licenses sourceUrl) := by
  rw [ofElementOfKind, checksOf]
  -- Add-ons alone have libraries, and these are read before all else.
  split
  · rename_i hAddon
    rw [librariesOf_eq]
    exact passing_bind (withCommon_eq fun _ => rfl)
  · rename_i hOther
    exact withCommon_eq fun hAddon => absurd hAddon hOther

/-- Trusted sources may publish packages of all kinds, others add-ons and extras. -/
def MayPublish (source : Feed.Kind) (kind : Kind) : Prop :=
  source = .repository ∨ kind = .addon ∨ kind = .extra

instance (source : Feed.Kind) (kind : Kind) : Decidable (MayPublish source kind) :=
  inferInstanceAs (Decidable (_ ∨ _ ∨ _))

theorem Kind.ofName?_name (kind : Kind) : ofName? kind.name = some kind := by
  cases kind <;> rfl

theorem Kind.name_injective : Function.Injective Kind.name := by
  intro first second hSame
  have hNamed := congrArg ofName? hSame
  rw [ofName?_name, ofName?_name] at hNamed
  exact Option.some.inj hNamed

theorem kindOf?_eq_some {source : Feed.Kind} :
    kindOf? source label = some kind ↔ kind.name = label ∧ MayPublish source kind := by
  rw [kindOf?, Option.filter_eq_some_iff]
  constructor
  · rintro ⟨hNamed, hOpen⟩
    refine ⟨Kind.name_of_ofName? hNamed, ?_⟩
    cases source <;> cases kind <;> simp_all [MayPublish, Feed.Kind.isTrusted, Kind.isRestricted]
  · rintro ⟨rfl, hOpen⟩
    constructor
    · exact Kind.ofName?_name kind
    · cases source <;> cases kind <;> simp_all [MayPublish, Feed.Kind.isTrusted, Kind.isRestricted]

/-- An element that describes a package which its source may publish is blamed, under the name of its
kind, for the first fault that the checks find, and gives the package it states just where they find
none. Every other element is passed over. -/
theorem ofElement_blames_first (source : Feed.Kind) (space : String) (licenses : Licenses)
    (sourceUrl : String) (element : Tree) :
    (∀ kind : Kind, kind.name = element.name.label → MayPublish source kind →
      (∀ label fault, ofElement source space licenses sourceUrl element = .error (label, fault) ↔
        label = kind.name ∧ IsFirstFault space (checksOf kind element space) fault) ∧
      (∀ answer, ofElement source space licenses sourceUrl element = .ok answer ↔
        answer = some (stated kind element space licenses sourceUrl) ∧
          ∀ check ∈ checksOf kind element space, ∀ fault, ¬ check.Finds space fault)) ∧
    ((∀ kind : Kind, kind.name = element.name.label → ¬ MayPublish source kind) →
      ofElement source space licenses sourceUrl element = .ok none) := by
  constructor
  · intro kind hName hMay
    have hKind := kindOf?_eq_some.mpr ⟨hName, hMay⟩
    rw [ofElement, hKind]
    simp only [ofElementOfKind_eq, isFirstFault_iff, none_finds_iff, passing]
    cases hFirst : (checksOf kind element space).findSome? (Check.fault? space) with
    | some first => simp [eq_comm]
    | none => simp [eq_comm]
  · intro hNone
    cases hKind : kindOf? source element.name.label with
    | some kind =>
        obtain ⟨hName, hMay⟩ := kindOf?_eq_some.mp hKind
        exact absurd hMay (hNone kind hName)
    | none => rw [ofElement, hKind]

/-- An add-on with a fault in its revision, one in its archive and, behind these, one in its second
library. -/
def tangledAddon : Tree :=
  let item (label : String) (content : List (Item Tree)) : Item Tree :=
    .child (.mk ⟨"s", label⟩ [] 1 content)
  .mk ⟨"s", "add-on"⟩ [] 1
    [item "revision" [.text "two"],
     item "archives" [item "archive" [item "url" [.text " "]]],
     item "libs" [item "lib" [item "name" [.text "a"]], item "lib" []]]

/-- The fault in the library is told. -/
theorem tangledAddon_blames_library :
    Kind.addon.name = tangledAddon.name.label ∧ MayPublish .addon .addon ∧
      IsFirstFault "s" (checksOf .addon tangledAddon "s") (.missing "name") ∧
      ofElement .addon "s" [] "u" tangledAddon = .error ("add-on", .missing "name") := by
  have hName : Kind.addon.name = tangledAddon.name.label := rfl
  have hMay : MayPublish .addon .addon := by decide
  have hFirst : IsFirstFault "s" (checksOf .addon tangledAddon "s") (.missing "name") :=
    isFirstFault_iff.mpr (by decide +kernel)
  have hBlamed := ((ofElement_blames_first .addon "s" [] "u" tangledAddon).1 .addon hName hMay).1
  exact ⟨hName, hMay, hFirst, (hBlamed _ _).mpr ⟨rfl, hFirst⟩⟩

end SdkFeed.Package
