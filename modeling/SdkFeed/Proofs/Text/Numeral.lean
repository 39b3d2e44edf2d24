import Mathlib.Data.Option.Basic
import SdkFeed.Text.Integer

/-! Numerals: which texts are read as integers, and as which ones. The grammar stands here on its own; the
reader takes the texts that it derives and no others. -/
namespace SdkFeed.Text

/-- Digits of any script and their values. There may be one underscore between two digits. -/
inductive IsGrouped : List Char → List Nat → Prop
  | last {c : Char} {value : Nat} (digit : digit? c = some value) : IsGrouped [c] [value]
  | next {c : Char} {value : Nat} {chars : List Char} {values : List Nat}
      (digit : digit? c = some value) (rest : IsGrouped chars values) :
      IsGrouped (c :: chars) (value :: values)
  | joined {c : Char} {value : Nat} {chars : List Char} {values : List Nat}
      (digit : digit? c = some value) (rest : IsGrouped chars values) :
      IsGrouped (c :: '_' :: chars) (value :: values)

/-- A numeral and the integer it stands for: digits, not more than the limit, perhaps behind a sign. -/
inductive IsNumeral : List Char → Int → Prop
  | plain {chars : List Char} {values : List Nat} (digits : IsGrouped chars values)
      (short : values.length ≤ digitLimit) : IsNumeral chars (ofDigits values)
  | positive {chars : List Char} {values : List Nat} (digits : IsGrouped chars values)
      (short : values.length ≤ digitLimit) : IsNumeral ('+' :: chars) (ofDigits values)
  | negative {chars : List Char} {values : List Nat} (digits : IsGrouped chars values)
      (short : values.length ≤ digitLimit) : IsNumeral ('-' :: chars) (-(ofDigits values))

theorem digit?_underscore : digit? '_' = none := by
  decide

theorem groupedDigits?_digit {c : Char} {value : Nat} (hDigit : digit? c = some value)
    (acc : List Nat) (joins : Bool) (chars : List Char) :
    groupedDigits? acc joins (c :: chars) = groupedDigits? (value :: acc) true chars := by
  have hOther : c ≠ '_' := by
    rintro rfl
    rw [digit?_underscore] at hDigit
    cases hDigit
  rw [groupedDigits?, hDigit]
  · rfl
  · exact hOther

theorem groupedDigits?_of_isGrouped {chars : List Char} {values : List Nat}
    (hGrouped : IsGrouped chars values) (acc : List Nat) (joins : Bool) :
    groupedDigits? acc joins chars = some (acc.reverse ++ values) := by
  induction hGrouped generalizing acc joins with
  | last digit =>
      rw [groupedDigits?_digit digit]
      simp [groupedDigits?]
  | next digit rest ih =>
      rw [groupedDigits?_digit digit, ih]
      simp
  | joined digit rest ih =>
      rw [groupedDigits?_digit digit, groupedDigits?, if_pos rfl, ih]
      simp

/-- What may come behind a digit: nothing more, or a digit, or an underscore and a digit. -/
inductive GoesOn : List Char → List Nat → Prop
  | done : GoesOn [] []
  | digit {chars : List Char} {values : List Nat} (rest : IsGrouped chars values) :
      GoesOn chars values
  | underscore {chars : List Char} {values : List Nat} (rest : IsGrouped chars values) :
      GoesOn ('_' :: chars) values

theorem GoesOn.isGrouped {c : Char} {value : Nat} {chars : List Char} {values : List Nat}
    (hRest : GoesOn chars values) (hDigit : digit? c = some value) :
    IsGrouped (c :: chars) (value :: values) := by
  cases hRest with
  | done => exact .last hDigit
  | digit rest => exact .next hDigit rest
  | underscore rest => exact .joined hDigit rest

/-- Where an underscore may not follow there must be a digit; elsewhere the number may go on. -/
theorem exists_of_groupedDigits? {acc digits : List Nat} {joins : Bool} {chars : List Char}
    (hDigits : groupedDigits? acc joins chars = some digits) : ∃ values,
      digits = acc.reverse ++ values ∧ GoesOn chars values ∧
        (joins = false → IsGrouped chars values) := by
  induction chars generalizing acc joins with
  | nil =>
      cases joins with
      | false => cases hDigits
      | true => exact ⟨[], by simpa [groupedDigits?] using hDigits.symm, .done, nofun⟩
  | cons c chars ih =>
      by_cases hLine : c = '_'
      · subst hLine
        cases joins with
        | false => cases hDigits
        | true =>
            obtain ⟨values, hValues, _, hGrouped⟩ := ih hDigits
            exact ⟨values, hValues, .underscore (hGrouped rfl), nofun⟩
      · cases hDigit : digit? c with
        | none =>
            rw [groupedDigits?, hDigit] at hDigits
            · cases hDigits
            · exact hLine
        | some value =>
            rw [groupedDigits?_digit hDigit] at hDigits
            obtain ⟨values, rfl, hRest, _⟩ := ih hDigits
            have hGrouped := hRest.isGrouped hDigit
            exact ⟨value :: values, by simp, .digit hGrouped, fun _ => hGrouped⟩

theorem grouped?_eq_some {chars : List Char} {n : Nat} : grouped? chars = some n ↔
    ∃ values, IsGrouped chars values ∧ values.length ≤ digitLimit ∧ n = ofDigits values := by
  rw [grouped?, Option.bind_eq_bind, Option.bind_eq_some_iff]
  constructor
  · rintro ⟨digits, hDigits, hNumber⟩
    obtain ⟨values, hSame, _, hGrouped⟩ := exists_of_groupedDigits? hDigits
    obtain rfl : digits = values := hSame
    obtain ⟨_, hShort, hValue⟩ := Option.bind_eq_some_iff.mp hNumber
    exact ⟨digits, hGrouped rfl, (Option.guard_eq_some' _).mp hShort, (Option.some.inj hValue).symm⟩
  · rintro ⟨values, hGrouped, hShort, rfl⟩
    refine ⟨values, groupedDigits?_of_isGrouped hGrouped [] false, ?_⟩
    rw [guard, if_pos hShort]
    rfl

theorem IsGrouped.digit?_head {c : Char} {chars : List Char} {values : List Nat}
    (hGrouped : IsGrouped (c :: chars) values) : digit? c ≠ none := by
  cases hGrouped with
  | last digit | next digit | joined digit =>
      rw [digit]
      exact nofun

/-- The numerals are the texts that are read as integers. -/
theorem integer?_eq_some {chars : List Char} {n : Int} :
    integer? chars = some n ↔ IsNumeral chars n := by
  constructor
  · intro hNumber
    rw [integer?.eq_def] at hNumber
    split at hNumber
    · obtain ⟨_, hValue, rfl⟩ := Option.map_eq_some_iff.mp hNumber
      obtain ⟨value, hGroups, hSame⟩ := Option.bind_eq_some_iff.mp hValue
      obtain ⟨values, hGrouped, hShort, rfl⟩ := grouped?_eq_some.mp hGroups
      rw [← Option.some.inj hSame]
      exact .negative hGrouped hShort
    · obtain ⟨value, hValue, rfl⟩ := Option.map_eq_some_iff.mp hNumber
      obtain ⟨values, hGrouped, hShort, rfl⟩ := grouped?_eq_some.mp hValue
      exact .positive hGrouped hShort
    · obtain ⟨value, hValue, rfl⟩ := Option.map_eq_some_iff.mp hNumber
      obtain ⟨values, hGrouped, hShort, rfl⟩ := grouped?_eq_some.mp hValue
      exact .plain hGrouped hShort
  · intro hNumeral
    cases hNumeral with
    | plain digits short =>
        have hValue := grouped?_eq_some.mpr ⟨_, digits, short, rfl⟩
        rw [integer?, hValue]
        · rfl
        · rintro rest rfl
          exact digits.digit?_head (by decide)
        · rintro rest rfl
          exact digits.digit?_head (by decide)
    | positive digits short | negative digits short =>
        have hValue := grouped?_eq_some.mpr ⟨_, digits, short, rfl⟩
        rw [integer?, hValue]
        rfl

end SdkFeed.Text
