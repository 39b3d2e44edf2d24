import Mathlib.Data.List.Basic
import SdkFeed.Text.Integer

/-! Reading rows of ASCII digits. The liberal reader takes them for the number they stand for, as long
as there are not too many of them. -/
namespace SdkFeed.Text

variable {c : Char} {chars : List Char}

theorem isDigit_bounds (hDigit : c.isDigit = true) : 48 ≤ c.toNat ∧ c.toNat ≤ 57 := by
  simp only [Char.isDigit, Bool.and_eq_true, decide_eq_true_eq] at hDigit
  exact ⟨UInt32.le_iff_toNat_le.mp hDigit.1, UInt32.le_iff_toNat_le.mp hDigit.2⟩

/-- A digit is the character of its value. -/
theorem digitChar_value (hDigit : c.isDigit = true) :
    c.toNat - '0'.toNat < 10 ∧ (c.toNat - '0'.toNat).digitChar = c := by
  obtain ⟨hLower, hUpper⟩ := isDigit_bounds hDigit
  have hZero : '0'.toNat = 48 := rfl
  have hValue : c.toNat - '0'.toNat < 10 := by omega
  refine ⟨hValue, Char.toNat_inj.mp ?_⟩
  rw [Nat.toNat_digitChar_of_lt_ten hValue]
  omega

theorem digit?_of_isDigit (hDigit : c.isDigit = true) : digit? c = some (c.toNat - '0'.toNat) := by
  obtain ⟨hLower, hUpper⟩ := isDigit_bounds hDigit
  have hOffset : digits.offset? c.toNat = some (c.toNat - 48) := by
    rw [digits, Ranges.offset?, if_neg (by omega), if_pos hUpper]
  have hZero : '0'.toNat = 48 := rfl
  rw [digit?, hOffset, Option.map_some, hZero, Nat.mod_eq_of_lt (by omega)]

/-- A row of digits is read one by one; it has no underscores. -/
theorem groupedDigits?_digits (acc : List Nat) (joins : Bool)
    (hDigits : ∀ c ∈ chars, c.isDigit = true) (hEnds : joins = true ∨ chars ≠ []) :
    groupedDigits? acc joins chars =
      some (acc.reverse ++ chars.map fun c => c.toNat - '0'.toNat) := by
  induction chars generalizing acc joins with
  | nil =>
      have hJoins : joins = true := hEnds.resolve_right fun hFilled => hFilled rfl
      simp [groupedDigits?, hJoins]
  | cons c rest ih =>
      obtain ⟨hDigit, hRest⟩ := List.forall_mem_cons.mp hDigits
      have hPlain : c ≠ '_' := by
        rintro rfl
        exact absurd hDigit (by decide)
      have hNext := ih ((c.toNat - '0'.toNat) :: acc) true hRest (Or.inl rfl)
      simpa [groupedDigits?, hPlain, digit?_of_isDigit hDigit] using hNext

theorem grouped?_digits (hDigits : ∀ c ∈ chars, c.isDigit = true) (hFilled : chars ≠ []) :
    grouped? chars = if chars.length ≤ digitLimit then
      some (ofDigits (chars.map fun c => c.toNat - '0'.toNat)) else none := by
  rw [grouped?, groupedDigits?_digits [] false hDigits (Or.inr hFilled), List.reverse_nil,
    List.nil_append, Option.bind_eq_bind, Option.bind_some, List.length_map, guard]
  split <;> rfl

theorem foldl_digits_pos {digits : List Nat} {value : Nat}
    (hPositive : 0 < value ∨ ∃ digit ∈ digits, digit ≠ 0) :
    0 < digits.foldl (fun value digit => 10 * value + digit) value := by
  induction digits generalizing value with
  | nil =>
      rcases hPositive with hValue | ⟨digit, hNone, _⟩
      · exact hValue
      · cases hNone
  | cons first rest ih =>
      rw [List.foldl_cons]
      apply ih
      rcases hPositive with hValue | ⟨digit, hIn, hDigit⟩
      · left
        omega
      · rcases List.mem_cons.mp hIn with rfl | hRest
        · left
          omega
        · exact Or.inr ⟨digit, hRest, hDigit⟩

/-- A row of digits that are not all zero stands for a positive number. -/
theorem ofDigits_pos (hDigits : ∀ c ∈ chars, c.isDigit = true) (hSome : ∃ c ∈ chars, c ≠ '0') :
    0 < ofDigits (chars.map fun c => c.toNat - '0'.toNat) := by
  obtain ⟨c, hIn, hOther⟩ := hSome
  refine foldl_digits_pos (Or.inr ⟨_, List.mem_map_of_mem hIn, fun hZero => hOther ?_⟩)
  obtain ⟨_, hChar⟩ := digitChar_value (hDigits c hIn)
  rw [← hChar, hZero]
  rfl

end SdkFeed.Text
