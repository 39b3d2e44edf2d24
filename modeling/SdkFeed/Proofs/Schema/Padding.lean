import SdkFeed.Proofs.Schema.Attribute
import SdkFeed.Proofs.Schema.Model
import SdkFeed.Proofs.Schema.Value

/-! Values of the schema, told by what stands between the white space at their ends. The check collapses a
value first; a collapsed value without a blank in it is the core of the value as it is written. -/
namespace SdkFeed.Schema

open SdkFeed.Xml SdkFeed.Text

variable {core raw : String} {digits chars : List Char}

theorem isSpace_of_isBlank {c : Char} (hOpen : isBlank c = false) : isSpace c = false := by
  cases hSpace : isSpace c with
  | false => rfl
  | true =>
      rw [isBlank_of_isSpace hSpace] at hOpen
      cases hOpen

/-- A text without white space inside is the collapsed form of the texts that it is the core of. -/
theorem collapsed_eq_iff (hCore : ∀ c ∈ core.toList, isSpace c = false) :
    collapsed raw = core ↔ IsPadded core raw := by
  rw [collapsed, ← String.toList_inj, String.toList_ofList, collapse]
  constructor
  · intro hCollapsed
    have hPlain : ' ' ∉ collapseFrom isSpace [] false raw.toList := by
      intro hIn
      rw [hCollapsed] at hIn
      exact absurd (hCore ' ' hIn) (by decide)
    obtain ⟨front, back, hChars, hFront, hBack⟩ := collapseFrom_empty hPlain
    rw [hCollapsed] at hChars
    exact ⟨front, back, hChars, hFront, hBack⟩
  · rintro ⟨front, back, hChars, hFront, hBack⟩
    rw [hChars]
    exact collapseFrom_padded hFront hCore hBack

theorem isPadded_collapsed (hCore : ∀ c ∈ (collapsed raw).toList, isBlank c = false) :
    IsPadded (collapsed raw) raw :=
  (collapsed_eq_iff fun c hIn => isSpace_of_isBlank (hCore c hIn)).mp rfl

theorem IsPadded.collapsed_eq (hPadded : IsPadded core raw)
    (hCore : ∀ c ∈ core.toList, isBlank c = false) : collapsed raw = core :=
  (collapsed_eq_iff fun c hIn => isSpace_of_isBlank (hCore c hIn)).mpr hPadded

theorem exists_ne_zero_of_value (hPositive : 0 < Nat.ofDigitChars 10 digits 0) :
    ∃ c ∈ digits, c ≠ '0' := by
  by_contra hNone
  have hZeros : ∀ c ∈ digits, c = '0' := by
    intro c hIn
    by_contra hOther
    exact hNone ⟨c, hIn, hOther⟩
  rw [List.eq_replicate_of_mem hZeros, Nat.ofDigitChars_replicate_zero] at hPositive
  omega

theorem isPositive_of_digits (hChars : chars = '+' :: digits ∨ chars = digits)
    (hDigits : ∀ c ∈ digits, c.isDigit = true) (hSome : ∃ c ∈ digits, c ≠ '0') :
    isPositive chars = true := by
  have hGood : (digits.all Char.isDigit && digits.any (· != '0')) = true := by
    simpa using ⟨hDigits, hSome⟩
  rcases hChars with rfl | rfl
  · exact hGood
  · rw [isPositive]
    · exact hGood
    · rintro rest rfl
      exact absurd (hDigits '+' List.mem_cons_self) (by decide)

/-- What the check takes for a positive integer is one. -/
theorem isPositive_iff : isPositive (collapsed raw).toList = true ↔ IsPositiveNumber raw := by
  constructor
  · intro hPositive
    obtain ⟨digits, hChars, hDigits, hSome⟩ := isPositive_eq_true hPositive
    refine ⟨collapsed raw, digits, isPadded_collapsed (isBlank_of_isPositive hPositive), hChars,
      hDigits, ?_⟩
    have hValue := ofDigits_pos hDigits hSome
    rw [ofDigits, ofDigitsTo, List.foldl_map] at hValue
    exact hValue
  · rintro ⟨core, digits, hPadded, hChars, hDigits, hValue⟩
    have hPositive := isPositive_of_digits hChars hDigits (exists_ne_zero_of_value hValue)
    rw [hPadded.collapsed_eq (isBlank_of_isPositive hPositive)]
    exact hPositive

/-- The texts of the values of a type. -/
def ValueType.IsSpelled : ValueType → String → Prop
  | text _ => IsAnything
  | positive => IsPositiveNumber
  | word => IsWord
  | digest => IsDigest
  | listed choices => fun raw => collapsed raw ∈ choices
  | special type => fun raw => type.isValue (collapse isSpace raw.toList) = true

/-- The check finds nothing wrong with a text just where it is spelled as its type demands. -/
theorem ValueType.problem?_eq_none {type : ValueType} :
    type.problem? raw = none ↔ type.IsSpelled raw := by
  cases type with
  | text => simp [problem?, IsSpelled, IsAnything]
  | positive =>
      have hSame : collapse isSpace raw.toList = (collapsed raw).toList := by
        rw [collapsed, String.toList_ofList]
      rw [IsSpelled, ← isPositive_iff, problem?, hSame]
      simp
  | word =>
      have hProblem : word.problem? raw = none ↔ collapsed raw ≠ "" ∧
          ∀ c ∈ (collapsed raw).toList, isWordChar c = true := by
        simp [problem?]
      rw [hProblem]
      constructor
      · rintro ⟨hFilled, hWord⟩
        refine ⟨collapsed raw, isPadded_collapsed ?_, hFilled, hWord⟩
        intro c hIn
        exact isBlank_of_isWordChar (hWord c hIn)
      · rintro ⟨core, hPadded, hFilled, hWord⟩
        rw [hPadded.collapsed_eq fun c hIn => isBlank_of_isWordChar (hWord c hIn)]
        exact ⟨hFilled, hWord⟩
  | digest => simp [problem?, IsSpelled, IsDigest]
  | listed choices => simp [problem?, IsSpelled]
  | special type => exact problem?_special

/-- The values that a rule allows, told by their core. -/
def Allowed.IsSpelled : Allowed → String → Prop
  | anything => IsAnything
  | oneOf choices => IsOneOf choices
  | exactly fixed => IsPadded fixed

/-- A rule names no values with blanks. -/
def Allowed.isPlain : Allowed → Bool
  | anything => true
  | oneOf choices => choices.all fun choice => choice.toList.all fun c => !isBlank c
  | exactly fixed => fixed.toList.all fun c => !isBlank c

theorem Allowed.fits_iff {allowed : Allowed} (hPlain : allowed.isPlain = true) :
    allowed.Fits raw ↔ allowed.IsSpelled raw := by
  have hCore {choice : String} (hOpen : (choice.toList.all fun c => !isBlank c) = true) :
      collapsed raw = choice ↔ IsPadded choice raw := by
    apply collapsed_eq_iff
    intro c hIn
    apply isSpace_of_isBlank
    simpa using List.all_eq_true.mp hOpen c hIn
  cases allowed with
  | anything => exact Iff.rfl
  | oneOf choices =>
      constructor
      · intro hIn
        exact ⟨_, hIn, (hCore (List.all_eq_true.mp hPlain _ hIn)).mp rfl⟩
      · rintro ⟨choice, hIn, hPadded⟩
        have hChoice := (hCore (List.all_eq_true.mp hPlain _ hIn)).mpr hPadded
        rw [Fits, hChoice]
        exact hIn
  | exactly fixed => exact hCore hPlain

end SdkFeed.Schema
