import Mathlib.Data.List.Forall2
import SdkFeed.Xml.ReadError

/-! What the success of a computation says of its parts. Every reader of the program stops at its
first error, so a result has come through all of them. -/
namespace SdkFeed

variable {α β ε φ : Type}

theorem bind_eq_ok {first : Except ε α} {next : α → Except ε β} {result : β} :
    (first >>= next) = .ok result ↔ ∃ value, first = .ok value ∧ next value = .ok result := by
  constructor
  · intro hResult
    cases first with
    | error fault => cases hResult
    | ok value => exact ⟨value, rfl, hResult⟩
  · rintro ⟨value, rfl, hNext⟩
    exact hNext

theorem bind_eq_error {first : Except ε α} {next : α → Except ε β} {fault : ε} :
    (first >>= next) = .error fault ↔
      first = .error fault ∨ ∃ value, first = .ok value ∧ next value = .error fault := by
  constructor
  · intro hResult
    cases first with
    | error other =>
        obtain rfl : other = fault := Except.error.inj hResult
        exact Or.inl rfl
    | ok value => exact Or.inr ⟨value, rfl, hResult⟩
  · rintro (rfl | ⟨value, rfl, hNext⟩)
    · rfl
    · exact hNext

theorem mapError_eq_ok {computation : Except ε α} {blame : ε → φ} {result : α} :
    computation.mapError blame = .ok result ↔ computation = .ok result := by
  cases computation with
  | error fault => exact iff_of_false nofun nofun
  | ok value =>
      constructor
      · intro hResult
        rw [Except.ok.inj hResult]
      · intro hResult
        rw [Except.ok.inj hResult]
        rfl

theorem mapError_eq_error {computation : Except ε α} {blame : ε → φ} {fault : φ} :
    computation.mapError blame = .error fault ↔
      ∃ cause, computation = .error cause ∧ blame cause = fault := by
  cases computation with
  | error cause =>
      constructor
      · intro hFault
        exact ⟨cause, rfl, Except.error.inj hFault⟩
      · rintro ⟨_, hCause, rfl⟩
        rw [Except.error.inj hCause]
        rfl
  | ok value => exact iff_of_false nofun nofun

/-- A list is worked through just where there is a result for each of its members. -/
theorem mapM_eq_ok {read : α → Except ε β} {members : List α} {results : List β} :
    members.mapM read = .ok results ↔
      List.Forall₂ (fun member result => read member = .ok result) members results := by
  induction members generalizing results with
  | nil =>
      rw [List.mapM_nil, List.forall₂_nil_left_iff]
      exact ⟨fun hNone => (Except.ok.inj hNone).symm, fun hNone => congrArg Except.ok hNone.symm⟩
  | cons first rest ih =>
      rw [List.mapM_cons, List.forall₂_cons_left_iff, bind_eq_ok]
      constructor
      · rintro ⟨result, hFirst, hRest⟩
        obtain ⟨later, hLater, hAll⟩ := bind_eq_ok.mp hRest
        exact ⟨result, later, hFirst, ih.mp hLater, (Except.ok.inj hAll).symm⟩
      · rintro ⟨result, later, hFirst, hLater, rfl⟩
        exact ⟨result, hFirst, bind_eq_ok.mpr ⟨later, ih.mpr hLater, rfl⟩⟩

/-- Two readers that agree on all members of a list read the list alike. -/
theorem mapM_congr_of_mem {read other : α → Except ε β} {members : List α}
    (hSame : ∀ member ∈ members, read member = other member) :
    members.mapM read = members.mapM other := by
  induction members with
  | nil => rfl
  | cons first rest ih =>
      obtain ⟨hFirst, hRest⟩ := List.forall_mem_cons.mp hSame
      rw [List.mapM_cons, List.mapM_cons, hFirst, ih hRest]

/-- Readers that agree on the members of two lists pair by pair read the lists alike. -/
theorem mapM_congr_of_forall₂ {γ : Type} {read : α → Except ε β} {other : γ → Except ε β}
    {members : List α} {others : List γ}
    (hSame : List.Forall₂ (fun member another => read member = other another) members others) :
    members.mapM read = others.mapM other := by
  induction hSame with
  | nil => rfl
  | cons hFirst _ ih => rw [List.mapM_cons, List.mapM_cons, hFirst, ih]

/-- Every result comes from a member of the list. -/
theorem exists_of_mem_results {read : α → Except ε β} {members : List α} {results : List β}
    (hAll : members.mapM read = .ok results) :
    ∀ result ∈ results, ∃ member ∈ members, read member = .ok result := by
  have hPairs := mapM_eq_ok.mp hAll
  clear hAll
  induction hPairs with
  | nil => exact nofun
  | cons hFirst _ ih =>
      refine List.forall_mem_cons.mpr ⟨⟨_, List.mem_cons_self, hFirst⟩, fun result hResult => ?_⟩
      obtain ⟨member, hMember, hRead⟩ := ih result hResult
      exact ⟨member, List.mem_cons_of_mem _ hMember, hRead⟩

theorem isOk_iff {computation : Except ε α} :
    computation.isOk = true ↔ ∃ value, computation = .ok value := by
  cases computation with
  | error fault => exact iff_of_false nofun nofun
  | ok value => exact iff_of_true rfl ⟨value, rfl⟩

@[simp] theorem isOk_pure (value : α) : (pure value : Except ε α).isOk = true :=
  rfl

@[simp] theorem isOk_map (result : α → β) (computation : Except ε α) :
    (result <$> computation).isOk = computation.isOk := by
  cases computation <;> rfl

theorem isOk_bind {first : Except ε α} {next : α → Except ε β} :
    (first >>= next).isOk = true ↔ ∃ value, first = .ok value ∧ (next value).isOk = true := by
  cases first with
  | error fault => exact iff_of_false nofun nofun
  | ok value =>
      constructor
      · intro hNext
        exact ⟨value, rfl, hNext⟩
      · rintro ⟨_, hValue, hNext⟩
        rw [Except.ok.inj hValue]
        exact hNext

/-- A list can be worked through just where each of its members can. -/
theorem isOk_mapM {read : α → Except ε β} {members : List α} :
    (members.mapM read).isOk = true ↔ ∀ member ∈ members, (read member).isOk = true := by
  induction members with
  | nil => exact iff_of_true rfl nofun
  | cons first rest ih =>
      rw [List.mapM_cons, List.forall_mem_cons]
      constructor
      · intro hAll
        obtain ⟨value, hFirst, hNext⟩ := isOk_bind.mp hAll
        obtain ⟨later, hLater, _⟩ := isOk_bind.mp hNext
        exact ⟨isOk_iff.mpr ⟨value, hFirst⟩, ih.mp (isOk_iff.mpr ⟨later, hLater⟩)⟩
      · rintro ⟨hFirst, hRest⟩
        obtain ⟨value, hValue⟩ := isOk_iff.mp hFirst
        obtain ⟨later, hLater⟩ := isOk_iff.mp (ih.mpr hRest)
        exact isOk_bind.mpr ⟨value, hValue, isOk_bind.mpr ⟨later, hLater, rfl⟩⟩

/-- What is checked of all members of a list holds for each of them. -/
theorem ok_of_forM {check : α → Except ε Unit} {members : List α}
    (hCheck : members.forM check = .ok ()) : ∀ member ∈ members, check member = .ok () := by
  induction members with
  | nil => intro member hMember; cases hMember
  | cons first rest ih =>
      obtain ⟨done, hFirst, hRest⟩ := bind_eq_ok.mp hCheck
      intro member hMember
      rcases List.mem_cons.mp hMember with rfl | hMember
      · exact hFirst
      · exact ih hRest member hMember

/-- What is found under a key is in the list. -/
theorem mem_of_lookup_eq_some {κ : Type} [BEq κ] [LawfulBEq κ] {items : List (κ × α)} {key : κ}
    {value : α} (hFound : items.lookup key = some value) : (key, value) ∈ items := by
  obtain ⟨front, back, hItems, _⟩ := List.lookup_eq_some_iff.mp hFound
  rw [hItems]
  exact List.mem_append_right front List.mem_cons_self

end SdkFeed
