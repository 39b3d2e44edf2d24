import SdkFeed.Proofs.Text.Collapse
import SdkFeed.Proofs.Text.Integer
import SdkFeed.Schema.Value

/-! Values of the schema as the reader of packages meets them. The schema collapses the white space of
a value and the reader trims it; both come to the same text, since no value has a blank inside. -/
namespace SdkFeed.Schema

open SdkFeed.Xml SdkFeed.Text

variable {c : Char} {chars : List Char} {raw : String}

theorem isBlank_of_isSpace (hSpace : isSpace c = true) : isBlank c = true := by
  simp only [isSpace, Bool.or_eq_true, beq_iff_eq] at hSpace
  rcases hSpace with ((rfl | rfl) | rfl) | rfl <;> decide

/-- The printing characters of ASCII are no blanks. -/
theorem isBlank_of_visible (hLower : 33 ≤ c.toNat) (hUpper : c.toNat ≤ 126) : isBlank c = false := by
  rw [isBlank, blanks, Ranges.mem, if_neg (by omega), if_neg (by omega), Ranges.mem,
    if_neg (by omega), if_neg (by omega), Ranges.mem, if_pos (by omega)]

theorem isBlank_of_isDigit (hDigit : c.isDigit = true) : isBlank c = false := by
  obtain ⟨hLower, hUpper⟩ := isDigit_bounds hDigit
  exact isBlank_of_visible (by omega) (by omega)

theorem isBlank_of_isWordChar (hWord : isWordChar c = true) : isBlank c = false := by
  change (c.isUpper || c.isLower || c.isDigit || c == '_') = true at hWord
  simp only [Bool.or_eq_true, beq_iff_eq] at hWord
  rcases hWord with ((hUpper | hLower) | hDigit) | rfl
  · change decide ('A'.val ≤ c.val ∧ c.val ≤ 'Z'.val) = true at hUpper
    rw [decide_eq_true_eq] at hUpper
    change 65 ≤ c.toNat ∧ c.toNat ≤ 90 at hUpper
    exact isBlank_of_visible (by omega) (by omega)
  · change (decide ('a'.val ≤ c.val) && decide (c.val ≤ 'z'.val)) = true at hLower
    rw [Bool.and_eq_true, decide_eq_true_eq, decide_eq_true_eq] at hLower
    change 97 ≤ c.toNat ∧ c.toNat ≤ 122 at hLower
    exact isBlank_of_visible (by omega) (by omega)
  · exact isBlank_of_isDigit hDigit
  · decide

theorem isBlank_of_isHexDigit (hHex : isHexDigit c = true) : isBlank c = false := by
  simp only [isHexDigit, Bool.or_eq_true, Bool.and_eq_true, decide_eq_true_eq, Char.le_def,
    UInt32.le_iff_toNat_le] at hHex
  rcases hHex with (hDigit | hLower) | hUpper
  · exact isBlank_of_isDigit hDigit
  · change 97 ≤ c.toNat ∧ c.toNat ≤ 102 at hLower
    exact isBlank_of_visible (by omega) (by omega)
  · change 65 ≤ c.toNat ∧ c.toNat ≤ 70 at hUpper
    exact isBlank_of_visible (by omega) (by omega)

/-- A positive integer: digits that are not all zero, perhaps behind a plus sign. -/
theorem isPositive_eq_true (hPositive : isPositive chars = true) :
    ∃ digits, (chars = '+' :: digits ∨ chars = digits) ∧ (∀ c ∈ digits, c.isDigit = true) ∧
      ∃ c ∈ digits, c ≠ '0' := by
  simp only [isPositive, Bool.and_eq_true, List.all_eq_true, List.any_eq_true, bne_iff_ne] at hPositive
  split at hPositive
  · rename_i digits
    exact ⟨digits, Or.inl rfl, hPositive⟩
  · exact ⟨chars, Or.inr rfl, hPositive⟩

/-- Neither a sign nor a digit is a blank. -/
theorem isBlank_of_isPositive (hPositive : isPositive chars = true) :
    ∀ c ∈ chars, isBlank c = false := by
  obtain ⟨digits, hChars, hDigits, _⟩ := isPositive_eq_true hPositive
  intro c hIn
  rcases hChars with rfl | rfl
  · rcases List.mem_cons.mp hIn with rfl | hIn
    · decide
    · exact isBlank_of_isDigit (hDigits c hIn)
  · exact isBlank_of_isDigit (hDigits c hIn)

/-- The number of ASCII digits in a text. -/
def digitCount (s : String) : Nat :=
  s.toList.countP Char.isDigit

theorem integer?_digits (hDigits : ∀ c ∈ chars, c.isDigit = true) :
    integer? chars = (grouped? chars).map Int.ofNat := by
  unfold integer?
  split
  · exact absurd (hDigits '-' List.mem_cons_self) (by decide)
  · exact absurd (hDigits '+' List.mem_cons_self) (by decide)
  · rfl

/-- A positive integer of the schema is read as a positive number, unless it has too many digits. -/
theorem integer?_of_isPositive {s : String} (hPositive : isPositive s.toList = true) :
    ∃ n : Nat, 0 < n ∧
      integer? s.toList = if digitCount s ≤ digitLimit then some (n : Int) else none := by
  obtain ⟨digits, hChars, hDigits, hSome⟩ := isPositive_eq_true hPositive
  refine ⟨_, ofDigits_pos hDigits hSome, ?_⟩
  have hFilled : digits ≠ [] := by
    obtain ⟨c, hIn, _⟩ := hSome
    exact List.ne_nil_of_mem hIn
  have hAll : digits.countP Char.isDigit = digits.length := List.countP_eq_length.mpr hDigits
  have hCount : digitCount s = digits.length := by
    rcases hChars with hSigned | hPlain
    · rw [digitCount, hSigned, List.countP_cons_of_neg (by decide), hAll]
    · rw [digitCount, hPlain, hAll]
  have hRead : integer? s.toList = (grouped? digits).map Int.ofNat := by
    rcases hChars with hSigned | hPlain
    · rw [hSigned]
      rfl
    · rw [hPlain, integer?_digits hDigits]
  rw [hRead, grouped?_digits hDigits hFilled, hCount]
  split <;> rfl

theorem ValueType.problem?_special {type : SpecialType} :
    (special type).problem? raw = none ↔ type.isValue (collapse isSpace raw.toList) = true := by
  simp [problem?]

/-- Names without a colon are names, whatever they are for. -/
theorem SpecialType.isValue_of_mem_bases {type wider : SpecialType}
    (hBase : .special wider ∈ (ValueType.special type).bases) (hValue : type.isValue chars = true) :
    wider.isValue chars = true := by
  have hPlain (hName : Alphabet.narrow.isPlainName chars = true) :
      Alphabet.narrow.isName chars = true := by
    rw [Alphabet.isPlainName, Bool.and_eq_true] at hName
    exact hName.1
  cases type with
  | language | nameToken | name => simp [ValueType.bases] at hBase
  | plainName =>
      obtain rfl : wider = .name := by simpa [ValueType.bases] using hBase
      exact hPlain hValue
  | id | idRef =>
      obtain rfl | rfl : wider = .plainName ∨ wider = .name := by
        simpa [ValueType.bases] using hBase
      · exact hValue
      · exact hPlain hValue
  | entity => cases hValue

/-- The values of a type are values of the types that it is derived from. -/
theorem ValueType.problem?_of_mem_bases {type base : ValueType} (hBase : base ∈ type.bases)
    (hValid : type.problem? raw = none) : base.problem? raw = none := by
  cases base with
  | text spacing => rfl
  | positive | word | digest | listed =>
      unfold bases at hBase
      split at hBase <;> simp at hBase
  | special wider =>
      cases type with
      | special type =>
          exact problem?_special.mpr
            (SpecialType.isValue_of_mem_bases hBase (problem?_special.mp hValid))
      | text spacing => cases spacing <;> simp [bases] at hBase
      | positive | word | digest | listed => simp [bases] at hBase

/-- What a text is that was read for a value of a type. Nothing is read for the types that elements
only say they are of. -/
def ValueType.Fits : ValueType → String → Prop
  | .text _, _ => True
  | .positive, s => isPositive s.toList = true
  | .word, s => s ≠ "" ∧ ∀ c ∈ s.toList, isWordChar c = true
  | .digest, s => s.toList.length = 40 ∧ ∀ c ∈ s.toList, isHexDigit c = true
  | .listed _, _ | .special _, _ => True

theorem trim_eq_collapsed (hCore : ∀ c ∈ collapse isSpace raw.toList, isBlank c = false) :
    trim raw = collapsed raw := by
  rw [trim, trimChars_eq_collapse (fun c => isBlank_of_isSpace) hCore, collapsed]

/-- A valid value still fits its type after trimming. -/
theorem ValueType.trim_fits {type : ValueType} (hValid : type.problem? raw = none) :
    type.Fits (trim raw) := by
  cases type with
  | text | listed | special => trivial
  | positive =>
      have hPositive : isPositive (collapse isSpace raw.toList) = true := by
        simpa [problem?] using hValid
      rw [Fits, trim_eq_collapsed (isBlank_of_isPositive hPositive), collapsed, String.toList_ofList]
      exact hPositive
  | word =>
      obtain ⟨hFilled, hWord⟩ : collapsed raw ≠ "" ∧
          ∀ c ∈ (collapsed raw).toList, isWordChar c = true := by
        simpa [problem?] using hValid
      have hCore : ∀ c ∈ collapse isSpace raw.toList, isBlank c = false := by
        intro c hIn
        refine isBlank_of_isWordChar (hWord c ?_)
        rw [collapsed, String.toList_ofList]
        exact hIn
      rw [Fits, trim_eq_collapsed hCore]
      exact ⟨hFilled, hWord⟩
  | digest =>
      obtain ⟨hLength, hDigits⟩ : raw.toList.length = 40 ∧
          ∀ c ∈ raw.toList, isHexDigit c = true := by
        simpa [problem?] using hValid
      have hTrimmed : trim raw = raw :=
        trim_eq_self_iff.mpr (.of_forall fun c hIn => isBlank_of_isHexDigit (hDigits c hIn))
      rw [Fits, hTrimmed]
      exact ⟨hLength, hDigits⟩

end SdkFeed.Schema
