import SdkFeed.Proofs.Text.Trim
import SdkFeed.Text.Character

/-! Collapsing and trimming agree on texts that come out in one piece: where the collapsed form has no
blank inside, there is nothing around it but the white space that trimming removes as well. -/
namespace SdkFeed.Text

variable {p : Char → Bool} {acc chars rest : List Char} {pending : Bool} {c : Char}

theorem collapseFrom_blank (hBlank : p c = true) :
    collapseFrom p acc pending (c :: rest) = collapseFrom p acc true rest := by
  simp [collapseFrom, hBlank]

theorem collapseFrom_first (hOpen : p c = false) :
    collapseFrom p [] pending (c :: rest) = collapseFrom p [c] false rest := by
  simp [collapseFrom, hOpen]

theorem collapseFrom_next (hOpen : p c = false) :
    collapseFrom p acc false (c :: rest) = collapseFrom p (c :: acc) false rest := by
  simp [collapseFrom, hOpen]

theorem collapseFrom_gap (hOpen : p c = false) (hFilled : acc ≠ []) :
    collapseFrom p acc true (c :: rest) = collapseFrom p (c :: ' ' :: acc) false rest := by
  simp [collapseFrom, hOpen, hFilled]

/-- What has been collapsed so far stays at the front. -/
theorem collapseFrom_front (p : Char → Bool) (acc : List Char) (pending : Bool)
    (chars : List Char) : acc.reverse <+: collapseFrom p acc pending chars := by
  induction chars generalizing acc pending with
  | nil => exact List.prefix_rfl
  | cons c rest ih =>
      rw [collapseFrom]
      split
      · exact ih acc true
      · split
        · have hLonger := ih (c :: ' ' :: acc) false
          rw [List.reverse_cons, List.reverse_cons, List.append_assoc] at hLonger
          exact (List.prefix_append _ _).trans hLonger
        · have hLonger := ih (c :: acc) false
          rw [List.reverse_cons] at hLonger
          exact (List.prefix_append _ _).trans hLonger

/-- Behind a blank nothing but blanks can follow, or else the blank would be kept. -/
theorem collapseFrom_pending (hFilled : acc ≠ []) (hPlain : ' ' ∉ collapseFrom p acc true chars) :
    collapseFrom p acc true chars = acc.reverse ∧ ∀ c ∈ chars, p c = true := by
  induction chars with
  | nil => exact ⟨rfl, nofun⟩
  | cons c rest ih =>
      cases hBlank : p c with
      | true =>
          rw [collapseFrom_blank hBlank] at hPlain ⊢
          obtain ⟨hSame, hRest⟩ := ih hPlain
          exact ⟨hSame, List.forall_mem_cons.mpr ⟨hBlank, hRest⟩⟩
      | false =>
          rw [collapseFrom_gap hBlank hFilled] at hPlain
          have hKept : ' ' ∈ (c :: ' ' :: acc).reverse := by simp
          exact absurd ((collapseFrom_front p _ false rest).subset hKept) hPlain

theorem collapseFrom_filled (hFilled : acc ≠ []) (hPlain : ' ' ∉ collapseFrom p acc false chars) :
    ∃ core back, chars = core ++ back ∧ (∀ c ∈ back, p c = true) ∧
      collapseFrom p acc false chars = acc.reverse ++ core := by
  induction chars generalizing acc with
  | nil => exact ⟨[], [], rfl, nofun, (List.append_nil _).symm⟩
  | cons c rest ih =>
      cases hBlank : p c with
      | true =>
          rw [collapseFrom_blank hBlank] at hPlain ⊢
          obtain ⟨hSame, hRest⟩ := collapseFrom_pending hFilled hPlain
          refine ⟨[], c :: rest, rfl, List.forall_mem_cons.mpr ⟨hBlank, hRest⟩, ?_⟩
          rw [hSame, List.append_nil]
      | false =>
          rw [collapseFrom_next hBlank] at hPlain ⊢
          obtain ⟨core, back, rfl, hBack, hSame⟩ := ih (List.cons_ne_nil c acc) hPlain
          refine ⟨c :: core, back, rfl, hBack, ?_⟩
          rw [hSame, List.reverse_cons, List.append_assoc, List.singleton_append]

/-- A text whose collapsed form is in one piece has only white space around it. -/
theorem collapseFrom_empty (hPlain : ' ' ∉ collapseFrom p [] pending chars) :
    ∃ front back, chars = front ++ collapseFrom p [] pending chars ++ back ∧
      (∀ c ∈ front, p c = true) ∧ ∀ c ∈ back, p c = true := by
  induction chars generalizing pending with
  | nil => exact ⟨[], [], rfl, nofun, nofun⟩
  | cons c rest ih =>
      cases hBlank : p c with
      | true =>
          rw [collapseFrom_blank hBlank] at hPlain ⊢
          obtain ⟨front, back, hRest, hFront, hBack⟩ := ih hPlain
          refine ⟨c :: front, back, ?_, List.forall_mem_cons.mpr ⟨hBlank, hFront⟩, hBack⟩
          rw [List.cons_append, List.cons_append, ← hRest]
      | false =>
          rw [collapseFrom_first hBlank] at hPlain ⊢
          obtain ⟨core, back, rfl, hBack, hSame⟩ :=
            collapseFrom_filled (List.cons_ne_nil c []) hPlain
          refine ⟨[], back, ?_, nofun, hBack⟩
          rw [hSame]
          rfl

theorem collapseFrom_back {back : List Char} (hBack : ∀ c ∈ back, p c = true) (pending : Bool) :
    collapseFrom p acc pending back = acc.reverse := by
  induction back generalizing pending with
  | nil => rfl
  | cons c rest ih =>
      obtain ⟨hBlank, hRest⟩ := List.forall_mem_cons.mp hBack
      rw [collapseFrom_blank hBlank]
      exact ih hRest true

theorem collapseFrom_core {core back : List Char} (hCore : ∀ c ∈ core, p c = false)
    (hBack : ∀ c ∈ back, p c = true) :
    collapseFrom p acc false (core ++ back) = acc.reverse ++ core := by
  induction core generalizing acc with
  | nil => rw [List.nil_append, collapseFrom_back hBack, List.append_nil]
  | cons c rest ih =>
      obtain ⟨hOpen, hRest⟩ := List.forall_mem_cons.mp hCore
      rw [List.cons_append, collapseFrom_next hOpen, ih hRest, List.reverse_cons, List.append_assoc,
        List.singleton_append]

/-- White space around a text without any goes. -/
theorem collapseFrom_padded {front core back : List Char} (hFront : ∀ c ∈ front, p c = true)
    (hCore : ∀ c ∈ core, p c = false) (hBack : ∀ c ∈ back, p c = true) :
    collapseFrom p [] pending (front ++ core ++ back) = core := by
  induction front generalizing pending with
  | nil =>
      cases core with
      | nil => exact collapseFrom_back hBack pending
      | cons c rest =>
          obtain ⟨hOpen, hRest⟩ := List.forall_mem_cons.mp hCore
          rw [List.nil_append, List.cons_append, collapseFrom_first hOpen,
            collapseFrom_core hRest hBack]
          rfl
  | cons c rest ih =>
      obtain ⟨hBlank, hRest⟩ := List.forall_mem_cons.mp hFront
      rw [List.cons_append, List.cons_append, collapseFrom_blank hBlank]
      exact ih hRest

/-- Trimming a text gives its collapsed form, if that has no blank in it. -/
theorem trimChars_eq_collapse (hSpaces : ∀ c, p c = true → isBlank c = true)
    (hCore : ∀ c ∈ collapse p chars, isBlank c = false) : trimChars chars = collapse p chars := by
  have hPlain : ' ' ∉ collapse p chars := fun hBlank => absurd (hCore ' ' hBlank) (by decide)
  obtain ⟨front, back, hChars, hFront, hBack⟩ := collapseFrom_empty hPlain
  change chars = front ++ collapse p chars ++ back at hChars
  generalize collapse p chars = core at hChars hCore
  rw [hChars]
  exact trimChars_append (fun c hIn => hSpaces c (hFront c hIn)) (.of_forall hCore)
    fun c hIn => hSpaces c (hBack c hIn)

end SdkFeed.Text
