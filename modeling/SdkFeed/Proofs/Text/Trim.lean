import Mathlib.Data.List.DropRight
import SdkFeed.Text.Character

/-! Texts without blanks at their ends. -/
namespace SdkFeed.Text

/-- Neither the first nor the last character is blank. -/
structure IsTrimmed (chars : List Char) : Prop where
  head : ∀ c, chars.head? = some c → isBlank c = false
  last : ∀ c, chars.getLast? = some c → isBlank c = false

/-- Trimming takes away the blanks around a trimmed text, and no more. -/
theorem trimChars_append {front core back : List Char} (hFront : ∀ c ∈ front, isBlank c = true)
    (hCore : IsTrimmed core) (hBack : ∀ c ∈ back, isBlank c = true) :
    trimChars (front ++ core ++ back) = core := by
  have hHead : (front ++ core ++ back).dropWhile isBlank = (core ++ back).dropWhile isBlank := by
    rw [List.append_assoc, List.dropWhile_append_of_pos hFront]
  have hLast : dropEnd isBlank (core ++ back) = core := by
    have hEnd : dropEnd isBlank (core ++ back) = dropEnd isBlank core := by
      rw [dropEnd, List.reverse_append, List.dropWhile_append_of_pos
        fun c hIn => hBack c (List.mem_reverse.mp hIn), dropEnd]
    rw [hEnd]
    exact List.rdropWhile_eq_self_iff.mpr fun hFilled hBlank => by
      rw [hCore.last _ (List.getLast?_eq_some_getLast hFilled)] at hBlank
      cases hBlank
  rw [trimChars, hHead]
  cases core with
  | nil =>
      have hNone : (([] : List Char) ++ back).dropWhile isBlank = [] :=
        List.dropWhile_eq_nil_iff.mpr hBack
      rw [hNone]
      rfl
  | cons c rest =>
      have hFirst : (c :: rest ++ back).dropWhile isBlank = c :: rest ++ back := by
        rw [List.cons_append, List.dropWhile_cons, hCore.head c rfl, if_neg nofun]
      rw [hFirst, hLast]

theorem trimChars_of_isTrimmed {chars : List Char} (hTrimmed : IsTrimmed chars) :
    trimChars chars = chars := by
  have hBare := @trimChars_append [] chars [] nofun hTrimmed nofun
  rw [List.append_nil, List.nil_append] at hBare
  exact hBare

/-- What is left after trimming is trimmed. -/
theorem isTrimmed_trimChars (chars : List Char) : IsTrimmed (trimChars chars) := by
  constructor
  · intro c hHead
    have hFirst : (chars.dropWhile isBlank).head? = some c := by
      obtain ⟨rest, hRest⟩ := List.rdropWhile_prefix isBlank (chars.dropWhile isBlank)
      rw [← hRest, List.head?_append]
      exact (congrArg (Option.or · rest.head?) hHead).trans rfl
    have hOpen := List.head?_dropWhile_not isBlank chars
    rw [hFirst] at hOpen
    exact hOpen
  · intro c hLast
    rw [trimChars, dropEnd, List.getLast?_reverse] at hLast
    have hOpen := List.head?_dropWhile_not isBlank (chars.dropWhile isBlank).reverse
    rw [hLast] at hOpen
    exact hOpen

/-- A trimmed text stays so when a filled one is put behind it. -/
theorem IsTrimmed.append {front back : List Char} (hFront : IsTrimmed front)
    (hBack : IsTrimmed back) (hFilled : back ≠ []) : IsTrimmed (front ++ back) := by
  constructor
  · intro c hHead
    cases front with
    | nil => exact hBack.head c hHead
    | cons first rest => exact hFront.head c hHead
  · intro c hLast
    rw [List.getLast?_append_of_ne_nil front hFilled] at hLast
    exact hBack.last c hLast

/-- A text without any blank is trimmed. -/
theorem IsTrimmed.of_forall {chars : List Char} (hPlain : ∀ c ∈ chars, isBlank c = false) :
    IsTrimmed chars :=
  ⟨fun c hHead => hPlain c (List.mem_of_head? hHead),
    fun c hLast => hPlain c (List.mem_of_getLast? hLast)⟩

theorem trim_eq_self_iff {s : String} : trim s = s ↔ IsTrimmed s.toList := by
  constructor
  · intro hTrim
    rw [← hTrim, trim, String.toList_ofList]
    exact isTrimmed_trimChars _
  · intro hTrimmed
    rw [trim, trimChars_of_isTrimmed hTrimmed, String.ofList_toList]

end SdkFeed.Text
