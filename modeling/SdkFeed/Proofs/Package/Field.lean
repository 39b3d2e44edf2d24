import SdkFeed.Package.Entry
import SdkFeed.Proofs.Schema.Acceptance
import SdkFeed.Proofs.Schema.Value
import SdkFeed.Proofs.Success

/-! Reading the children of an element that the check accepts. A child that is found is accepted as
what its label makes it, and a value that is read from it fits its type. -/
namespace SdkFeed.Package

open SdkFeed.Schema SdkFeed.Xml SdkFeed.Text

variable {edition : Edition} {form : Form} {element : Tree} {label space : String}

theorem mem_childrenNamed {child : Tree} (hChild : child ∈ childrenNamed element space label) :
    child ∈ element.children ∧ child.name.label = label := by
  obtain ⟨hIn, hNamed⟩ := List.mem_filter.mp hChild
  exact ⟨hIn, eq_of_beq (Bool.and_eq_true_iff.mp hNamed).1⟩

theorem mem_childrenNamed_of_space {child : Tree} (hChild : child ∈ element.children)
    (hLabel : child.name.label = label) (hSpace : child.name.space = space) :
    child ∈ childrenNamed element space label := by
  refine List.mem_filter.mpr ⟨hChild, ?_⟩
  simp [hLabel, hSpace]

/-- Every child with a label is accepted in the form that its label tells. -/
theorem accepts_of_mem_childrenNamed {child : Tree} (hAccepts : edition.Accepts form element)
    (hChild : child ∈ childrenNamed element space label) :
    ∃ childForm, (edition.content form).formOf? [] label = some childForm ∧
      edition.Accepts childForm child := by
  obtain ⟨hIn, hLabel⟩ := mem_childrenNamed hChild
  obtain ⟨_, childForm, hForm, hChildAccepts⟩ := hAccepts.admits.children child hIn
  rw [hLabel] at hForm
  exact ⟨childForm, hForm, hChildAccepts⟩

theorem accepts_of_childNamed? {child : Tree} (hAccepts : edition.Accepts form element)
    (hChild : childNamed? element space label = some child) :
    ∃ childForm, (edition.content form).formOf? [] label = some childForm ∧
      edition.Accepts childForm child :=
  accepts_of_mem_childrenNamed hAccepts (List.mem_of_head? hChild)

/-- A child that must be there is found. -/
theorem childNamed?_of_requires (hAccepts : edition.Accepts form element)
    (hRequired : (edition.content form).requires label = true) :
    ∃ child, childNamed? element edition.space label = some child := by
  obtain ⟨child, hChild, hLabel, hSpace⟩ := hAccepts.exists_child hRequired
  have hIn := mem_childrenNamed_of_space hChild hLabel hSpace
  exact ⟨_, List.head?_eq_some_head (List.ne_nil_of_mem hIn)⟩

/-- The trimmed text of an accepted value fits the type of the value. -/
theorem trimmedText_fits {type : ValueType} (hAccepts : edition.Accepts form element)
    (hContent : edition.content form = .value type) : type.Fits (trimmedText element) :=
  ValueType.trim_fits (hAccepts.value hContent)

/-- A child with a label, where there is one, is a value of a type. -/
def IsValue (edition : Edition) (form : Form) (label : String) (type : ValueType) : Prop :=
  ∀ childForm, (edition.content form).formOf? [] label = some childForm →
    edition.content childForm = .value type

/-- The text of a value is empty if the value is absent, and otherwise fits its type. -/
theorem textOf_fits {type : ValueType} (hAccepts : edition.Accepts form element)
    (hValue : IsValue edition form label type) :
    childNamed? element space label = none ∧ textOf element space label = "" ∨
      (childNamed? element space label).isSome = true ∧ type.Fits (textOf element space label) := by
  cases hChild : childNamed? element space label with
  | none => exact Or.inl ⟨rfl, by rw [textOf, hChild]; rfl⟩
  | some child =>
      obtain ⟨childForm, hForm, hChildAccepts⟩ := accepts_of_childNamed? hAccepts hChild
      refine Or.inr ⟨rfl, ?_⟩
      rw [textOf, hChild]
      exact trimmedText_fits hChildAccepts (hValue childForm hForm)

theorem requiredText_eq_ok {text : String} : requiredText element space label = .ok text ↔
    textOf element space label = text ∧ text ≠ "" := by
  rw [requiredText]
  split
  · rename_i hEmpty
    have hNone : textOf element space label = "" := by simpa using hEmpty
    refine iff_of_false nofun ?_
    rintro ⟨rfl, hFilled⟩
    exact hFilled hNone
  · rename_i hFilled
    have hSome : textOf element space label ≠ "" := by simpa using hFilled
    constructor
    · intro hText
      rw [← Except.ok.inj hText]
      exact ⟨rfl, hSome⟩
    · rintro ⟨rfl, _⟩
      rfl

theorem isOk_requiredText :
    (requiredText element space label).isOk = true ↔ textOf element space label ≠ "" := by
  simp [isOk_iff, requiredText_eq_ok]

theorem ne_empty_of_fits {text : String} (hFits : ValueType.positive.Fits text) : text ≠ "" := by
  rintro rfl
  exact Bool.false_ne_true hFits

/-- A positive integer is read as a positive number, unless it has too many digits. -/
theorem readInteger_of_fits (label : String) {text : String}
    (hFits : ValueType.positive.Fits text) :
    ∃ n : Nat, 0 < n ∧ readInteger label text =
      if digitCount text ≤ digitLimit then .ok (n : Int) else .error (.invalid label text) := by
  obtain ⟨n, hPositive, hRead⟩ := integer?_of_isPositive hFits
  refine ⟨n, hPositive, ?_⟩
  rw [readInteger, hRead]
  by_cases hShort : digitCount text ≤ digitLimit
  · rw [if_pos hShort, if_pos hShort]
  · rw [if_neg hShort, if_neg hShort]

/-- An integer that may be absent: none counts as 0, and another one is positive. -/
theorem optionalInteger_of_isValue (space : String) (hAccepts : edition.Accepts form element)
    (hValue : IsValue edition form label .positive) :
    childNamed? element space label = none ∧ textOf element space label = "" ∧
        optionalInteger element space label = .ok 0 ∨
      (childNamed? element space label).isSome = true ∧ ∃ n : Nat, 0 < n ∧
        optionalInteger element space label =
          if digitCount (textOf element space label) ≤ digitLimit then .ok (n : Int)
          else .error (.invalid label (textOf element space label)) := by
  rcases textOf_fits hAccepts hValue with ⟨hNone, hText⟩ | ⟨hSome, hFits⟩
  · refine Or.inl ⟨hNone, hText, ?_⟩
    rw [optionalInteger, hText]
    rfl
  · have hFilled : (textOf element space label).isEmpty = false := by
      simpa using ne_empty_of_fits hFits
    obtain ⟨n, hPositive, hRead⟩ := readInteger_of_fits label hFits
    refine Or.inr ⟨hSome, n, hPositive, ?_⟩
    rw [optionalInteger, hFilled]
    exact hRead

theorem isOk_optionalInteger (hAccepts : edition.Accepts form element)
    (hValue : IsValue edition form label .positive) :
    (optionalInteger element space label).isOk = true ↔
      digitCount (textOf element space label) ≤ digitLimit := by
  rcases optionalInteger_of_isValue space hAccepts hValue with
    ⟨_, hText, hRead⟩ | ⟨_, n, _, hRead⟩
  · rw [hRead, hText]
    exact iff_of_true rfl (by decide)
  · rw [hRead]
    split
    · rename_i hShort
      exact iff_of_true rfl hShort
    · rename_i hLong
      exact iff_of_false nofun hLong

/-- An integer that must be there is positive. -/
theorem requiredInteger_of_isValue (hAccepts : edition.Accepts form element)
    (hValue : IsValue edition form label .positive)
    (hRequired : (edition.content form).requires label = true) :
    ∃ n : Nat, 0 < n ∧ requiredInteger element edition.space label =
      if digitCount (textOf element edition.space label) ≤ digitLimit then .ok (n : Int)
      else .error (.invalid label (textOf element edition.space label)) := by
  obtain ⟨child, hChild⟩ := childNamed?_of_requires hAccepts hRequired
  rcases textOf_fits hAccepts hValue with ⟨hNone, _⟩ | ⟨_, hFits⟩
  · rw [hChild] at hNone
    cases hNone
  · obtain ⟨n, hPositive, hRead⟩ := readInteger_of_fits label hFits
    have hText := requiredText_eq_ok.mpr ⟨rfl, ne_empty_of_fits hFits⟩
    refine ⟨n, hPositive, ?_⟩
    rw [requiredInteger, hText, ← hRead]
    rfl

theorem isOk_requiredInteger (hAccepts : edition.Accepts form element)
    (hValue : IsValue edition form label .positive)
    (hRequired : (edition.content form).requires label = true) :
    (requiredInteger element edition.space label).isOk = true ↔
      digitCount (textOf element edition.space label) ≤ digitLimit := by
  obtain ⟨n, _, hRead⟩ := requiredInteger_of_isValue hAccepts hValue hRequired
  rw [hRead]
  split
  · rename_i hShort
    exact iff_of_true rfl hShort
  · rename_i hLong
    exact iff_of_false nofun hLong

end SdkFeed.Package
