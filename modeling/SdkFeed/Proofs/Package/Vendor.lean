import SdkFeed.Proofs.Package.Stability

/-! Listing the packages of vendors. Add-ons and extras are listed by one text, the vendor with a bar
and the name of the package behind it. This is the order by vendors, and then by names, as long as no
vendor goes on behind another one with a character up to the bar; otherwise the bar of the shorter
vendor is compared with a character of the longer one. -/
namespace SdkFeed.Package

section Separated

variable {front back first second : List Char} {x y : List Char}

theorem append_lt_append_iff : front ++ x < front ++ y ↔ x < y := by
  induction front with
  | nil => rfl
  | cons c front ih => simpa [List.cons_lt_cons_iff] using ih

/-- Two texts are the same, part at some place, or one of them goes on behind the other. -/
theorem compare_cases (first second : List Char) :
    first = second ∨
      (∃ front c d x y, first = front ++ c :: x ∧ second = front ++ d :: y ∧ c ≠ d) ∨
      (∃ c rest, second = first ++ c :: rest) ∨ ∃ c rest, first = second ++ c :: rest := by
  induction first generalizing second with
  | nil =>
      cases second with
      | nil => exact .inl rfl
      | cons d y => exact .inr (.inr (.inl ⟨d, y, rfl⟩))
  | cons c x ih =>
      cases second with
      | nil => exact .inr (.inr (.inr ⟨c, x, rfl⟩))
      | cons d y =>
          by_cases hSame : c = d
          · subst hSame
            obtain rfl | ⟨front, a, b, s, t, rfl, rfl, hPart⟩ | ⟨a, rest, rfl⟩ | ⟨a, rest, rfl⟩ :=
              ih y
            · exact .inl rfl
            · exact .inr (.inl ⟨c :: front, a, b, s, t, rfl, rfl, hPart⟩)
            · exact .inr (.inr (.inl ⟨a, rest, rfl⟩))
            · exact .inr (.inr (.inr ⟨a, rest, rfl⟩))
          · exact .inr (.inl ⟨[], c, d, x, y, rfl, rfl, hSame⟩)

/-- What stands between two texts with one beginning has this beginning as well. -/
theorem prefix_of_between {text : List Char} (hFirst : ¬text < front ++ x)
    (hLast : ¬front ++ y < text) : front <+: text := by
  induction front generalizing text with
  | nil => exact List.nil_prefix
  | cons c front ih =>
      cases text with
      | nil => exact absurd (List.nil_lt_cons c (front ++ x)) hFirst
      | cons d text =>
          rw [List.cons_append, List.cons_lt_cons_iff, not_or] at hFirst hLast
          have hSame : c = d := Char.le_antisymm (Char.not_lt.mp hFirst.1) (Char.not_lt.mp hLast.1)
          subst hSame
          refine List.cons_prefix_cons.mpr ⟨rfl, ih ?_ ?_⟩
          · exact fun hBefore => hFirst.2 ⟨rfl, hBefore⟩
          · exact fun hAfter => hLast.2 ⟨rfl, hAfter⟩

/-- Texts without a bar are told apart in front of one. -/
theorem eq_of_separated (hFirst : '|' ∉ first) (hSecond : '|' ∉ second)
    (hSame : first ++ '|' :: x = second ++ '|' :: y) : first = second ∧ x = y := by
  induction first generalizing second with
  | nil =>
      cases second with
      | nil => exact ⟨rfl, List.tail_eq_of_cons_eq hSame⟩
      | cons d second => exact absurd (List.head_eq_of_cons_eq hSame ▸ List.mem_cons_self) hSecond
  | cons c first ih =>
      cases second with
      | nil => exact absurd (List.head_eq_of_cons_eq hSame ▸ List.mem_cons_self) hFirst
      | cons d second =>
          obtain ⟨rfl, hRest⟩ := List.cons.inj hSame
          obtain ⟨rfl, rfl⟩ := ih (fun h => hFirst (List.mem_cons_of_mem _ h))
            (fun h => hSecond (List.mem_cons_of_mem _ h)) hRest
          exact ⟨rfl, rfl⟩

/-- A text goes on behind another one, with a character that is not above the bar. -/
def Overhangs (longer shorter : List Char) : Prop :=
  ∃ c rest, longer = shorter ++ c :: rest ∧ c ≤ '|'

/-- Behind a vendor that another one goes on from, the character there is compared with the bar. -/
theorem separated_lt_longer {c : Char} {rest : List Char} :
    first ++ '|' :: x < (first ++ c :: rest) ++ '|' :: y ↔
      '|' < c ∨ '|' = c ∧ x < rest ++ '|' :: y := by
  rw [List.append_assoc, append_lt_append_iff, List.cons_append, List.cons_lt_cons_iff]

theorem longer_lt_separated {c : Char} {rest : List Char} :
    (first ++ c :: rest) ++ '|' :: y < first ++ '|' :: x ↔
      c < '|' ∨ c = '|' ∧ rest ++ '|' :: y < x := by
  rw [List.append_assoc, append_lt_append_iff, List.cons_append, List.cons_lt_cons_iff]

theorem separated_eq_longer {c : Char} {rest : List Char} :
    first ++ '|' :: x = (first ++ c :: rest) ++ '|' :: y ↔ '|' = c ∧ x = rest ++ '|' :: y := by
  rw [List.append_assoc, List.append_cancel_left_eq, List.cons_append, List.cons.injEq]

theorem lt_longer {c : Char} {rest : List Char} : first < first ++ c :: rest := by
  have hLonger : first ++ [] < first ++ c :: rest :=
    append_lt_append_iff.mpr (List.nil_lt_cons c rest)
  rwa [List.append_nil] at hLonger

theorem ne_longer {c : Char} {rest : List Char} : first ≠ first ++ c :: rest := by
  intro hSame
  exact List.cons_ne_nil c rest (List.self_eq_append_right.mp hSame)

/-- Texts with a bar behind them are compared like the pairs around the bar, if neither goes on behind
the other one with a character up to the bar. -/
theorem separated_iff (hFirst : ¬Overhangs first second) (hSecond : ¬Overhangs second first) :
    (first ++ '|' :: x < second ++ '|' :: y ↔ first < second ∨ first = second ∧ x < y) ∧
      (first ++ '|' :: x = second ++ '|' :: y ↔ first = second ∧ x = y) := by
  obtain rfl | ⟨front, c, d, s, t, rfl, rfl, hPart⟩ | ⟨c, rest, rfl⟩ | ⟨c, rest, rfl⟩ :=
    compare_cases first second
  · have hBar : '|' :: x < '|' :: y ↔ x < y := @append_lt_append_iff ['|'] x y
    have hSelf : ¬first < first := List.lt_irrefl first
    rw [append_lt_append_iff, hBar, List.append_cancel_left_eq, List.cons.injEq]
    simp only [hSelf, true_and, false_or, and_self]
  · simp [List.append_assoc, append_lt_append_iff, List.cons_lt_cons_iff, hPart]
  · have hAbove : '|' < c := Char.not_le.mp fun hBelow => hSecond ⟨c, rest, rfl, hBelow⟩
    refine ⟨iff_of_true (separated_lt_longer.mpr (.inl hAbove)) (.inl lt_longer), ?_⟩
    refine iff_of_false (fun hSame => ?_) (fun hSame => ne_longer hSame.1)
    exact Char.ne_of_lt hAbove (separated_eq_longer.mp hSame).1
  · have hAbove : '|' < c := Char.not_le.mp fun hBelow => hFirst ⟨c, rest, rfl, hBelow⟩
    constructor
    · refine iff_of_false (fun hBefore => ?_) ?_
      · obtain hBelow | ⟨hBar, _⟩ := longer_lt_separated.mp hBefore
        · exact Char.lt_asymm hBelow hAbove
        · exact Char.ne_of_lt hAbove hBar.symm
      · rintro (hBefore | ⟨hSame, _⟩)
        · exact List.lt_asymm hBefore lt_longer
        · exact ne_longer hSame.symm
    · refine iff_of_false (fun hSame => ?_) (fun hSame => ne_longer hSame.1.symm)
      exact Char.ne_of_lt hAbove (separated_eq_longer.mp hSame.symm).1

end Separated

/-- The vendor of an add-on or an extra, and what tells the packages of the vendor apart: the name of an
add-on, the path of an extra. -/
@[ext]
structure Offer where
  vendor : String
  name : String
deriving DecidableEq, Repr

/-- What an add-on or an extra offers. -/
def Variant.offer? : Variant → Option Offer
  | addon name vendor .. => some ⟨vendor, name⟩
  | extra vendor path _ => some ⟨vendor, path⟩
  | _ => none

variable {first second third : Package} {packages : List Package} {a b c : Offer}

theorem nameKey_of_offer? {variant : Variant} (hOffer : variant.offer? = some a) :
    variant.nameKey.toList = a.vendor.toList ++ '|' :: a.name.toList := by
  cases variant with
  | addon name vendor apiLevel codename libraries =>
      cases hOffer
      simp [Variant.nameKey]
  | extra vendor path minToolsRevision =>
      cases hOffer
      simp [Variant.nameKey]
  | _ => cases hOffer

theorem exists_offer_iff {package : Package} :
    (∃ offer, package.variant.offer? = some offer) ↔
      package.kind = .addon ∨ package.kind = .extra := by
  rw [kind]
  cases package.variant <;> simp [Variant.offer?, Variant.kind]

theorem Kind.rank_injective {kind other : Kind} (hRank : kind.rank = other.rank) : kind = other := by
  cases kind <;> cases other <;> first | rfl | exact absurd hRank (by decide)

/-- Packages of one kind and level are compared by their names, and then the newest comes first. -/
theorem precedes_iff_nameKey (hKind : first.kind = second.kind)
    (hLevel : first.apiLevel = second.apiLevel) :
    first.precedes second = true ↔
      first.variant.nameKey.toList < second.variant.nameKey.toList ∨
        first.variant.nameKey.toList = second.variant.nameKey.toList ∧
          second.revision < first.revision := by
  rw [precedes, SortKey.precedes_iff, String.toList_inj]
  simp only [sortKey, hKind, hLevel, Nat.lt_irrefl, Int.lt_irrefl, false_or, true_and,
    Int.neg_lt_neg_iff]
  rfl

theorem precedes_iff_offers (hFirst : first.variant.offer? = some a)
    (hSecond : second.variant.offer? = some b) (hKind : first.kind = second.kind)
    (hLevel : first.apiLevel = second.apiLevel) :
    first.precedes second = true ↔
      a.vendor.toList ++ '|' :: a.name.toList < b.vendor.toList ++ '|' :: b.name.toList ∨
        a.vendor.toList ++ '|' :: a.name.toList = b.vendor.toList ++ '|' :: b.name.toList ∧
          second.revision < first.revision := by
  rw [precedes_iff_nameKey hKind hLevel, nameKey_of_offer? hFirst, nameKey_of_offer? hSecond]

/-- How two packages of one kind and level are listed, by what they offer. -/
structure IsOrdered (first second : Package) (a b : Offer) : Prop where
  /-- By vendor, then by name, then the newest first, if neither vendor overhangs the other one. -/
  byVendor : ¬Overhangs a.vendor.toList b.vendor.toList → ¬Overhangs b.vendor.toList a.vendor.toList →
    (first.precedes second = true ↔ a.vendor < b.vendor ∨ a.vendor = b.vendor ∧
      (a.name < b.name ∨ a.name = b.name ∧ second.revision < first.revision))
  /-- A vendor that goes on below the bar comes first, although it is the later one. -/
  longerFirst : ∀ d rest, b.vendor.toList = a.vendor.toList ++ d :: rest → d < '|' →
    a.vendor < b.vendor ∧ second.precedes first = true
  /-- What a vendor has behind a bar counts with the names. -/
  restNames : ∀ rest, b.vendor.toList = a.vendor.toList ++ '|' :: rest →
    (first.precedes second = true ↔ a.name.toList < rest ++ '|' :: b.name.toList ∨
      a.name.toList = rest ++ '|' :: b.name.toList ∧ second.revision < first.revision)
  /-- Vendors without a bar leave no ties between different offers. -/
  ties : '|' ∉ a.vendor.toList → '|' ∉ b.vendor.toList → first.precedes second = false →
    second.precedes first = false → a = b ∧ first.revision = second.revision

theorem isOrdered (hFirst : first.variant.offer? = some a)
    (hSecond : second.variant.offer? = some b) (hKind : first.kind = second.kind)
    (hLevel : first.apiLevel = second.apiLevel) : IsOrdered first second a b := by
  have hOrder := precedes_iff_offers hFirst hSecond hKind hLevel
  constructor
  case byVendor =>
    intro hLonger hShorter
    obtain ⟨hLess, hSame⟩ := separated_iff (x := a.name.toList) (y := b.name.toList) hLonger hShorter
    rw [hOrder, hLess, hSame, String.toList_inj, String.toList_inj, or_assoc, and_assoc, ← and_or_left]
    rfl
  case longerFirst =>
    intro d rest hVendor hBelow
    constructor
    · show a.vendor.toList < b.vendor.toList
      rw [hVendor]
      exact lt_longer
    · rw [precedes_iff_offers hSecond hFirst hKind.symm hLevel.symm, hVendor]
      exact .inl (longer_lt_separated.mpr (.inl hBelow))
  case restNames =>
    intro rest hVendor
    rw [hOrder, hVendor, separated_lt_longer, separated_eq_longer]
    simp
  case ties =>
    intro hPlain hOther hNotFirst hNotSecond
    have hKey : first.sortKey = second.sortKey := SortKey.eq_of_not_precedes hNotFirst hNotSecond
    have hName : first.variant.nameKey = second.variant.nameKey := congrArg SortKey.name hKey
    have hRevision : -first.revision = -second.revision := congrArg SortKey.revision hKey
    rw [← String.toList_inj, nameKey_of_offer? hFirst, nameKey_of_offer? hSecond] at hName
    obtain ⟨hVendor, hRest⟩ := eq_of_separated hPlain hOther hName
    exact ⟨Offer.ext (String.toList_inj.mp hVendor) (String.toList_inj.mp hRest),
      Int.neg_inj.mp hRevision⟩

/-- No vendor of these packages has a bar in its name. -/
def HavePlainVendors (packages : List Package) : Prop :=
  ∀ package ∈ packages, ∀ offer, package.variant.offer? = some offer → '|' ∉ offer.vendor.toList

/-- Between two packages of one kind, level and vendor there are no others. -/
def StandTogether (listed : List Package) : Prop :=
  ∀ ⦃first second third : Package⦄ ⦃a c : Offer⦄, [first, second, third].Sublist listed →
    first.variant.offer? = some a → third.variant.offer? = some c → first.kind = third.kind →
    first.apiLevel = third.apiLevel → a.vendor = c.vendor →
      second.kind = first.kind ∧ second.apiLevel = first.apiLevel ∧
        ∃ b, second.variant.offer? = some b ∧ b.vendor = a.vendor

/-- What is listed between two packages of one kind and level is of the same kind and level. -/
theorem kind_of_between (hFirst : second.precedes first = false)
    (hLast : third.precedes second = false) (hKind : first.kind = third.kind)
    (hLevel : first.apiLevel = third.apiLevel) :
    second.kind = first.kind ∧ second.apiLevel = first.apiLevel := by
  rw [Bool.eq_false_iff, Ne, precedes, SortKey.precedes_iff] at hFirst hLast
  simp only [sortKey, hKind, hLevel] at hFirst hLast ⊢
  have hRank : second.kind.rank = third.kind.rank := by omega
  have hSame : second.apiLevel = third.apiLevel := by omega
  exact ⟨Kind.rank_injective hRank, hSame⟩

theorem not_lt_of_not_precedes (hFirst : first.variant.offer? = some a)
    (hSecond : second.variant.offer? = some b) (hKind : first.kind = second.kind)
    (hLevel : first.apiLevel = second.apiLevel) (hNot : first.precedes second = false) :
    ¬a.vendor.toList ++ '|' :: a.name.toList < b.vendor.toList ++ '|' :: b.name.toList := by
  intro hBefore
  exact absurd ((precedes_iff_offers hFirst hSecond hKind hLevel).mpr (.inl hBefore)) (by simp [hNot])

theorem standTogether_sorted (hPlain : HavePlainVendors packages) :
    StandTogether (sorted packages) := by
  intro first second third a c hSublist hFirst hThird hKind hLevel hVendor
  have hOrdered := (sorted_pairwise packages).sublist hSublist
  rw [List.pairwise_cons, List.pairwise_cons] at hOrdered
  have hNotSecond : second.precedes first = false := hOrdered.1 second (by simp)
  have hNotThird : third.precedes second = false := hOrdered.2.1 third (by simp)
  obtain ⟨hSameKind, hSameLevel⟩ := kind_of_between hNotSecond hNotThird hKind hLevel
  obtain ⟨b, hSecond⟩ : ∃ b, second.variant.offer? = some b := by
    rw [exists_offer_iff, hSameKind, ← exists_offer_iff]
    exact ⟨a, hFirst⟩
  refine ⟨hSameKind, hSameLevel, b, hSecond, ?_⟩
  have hMember : ∀ {package : Package}, package ∈ [first, second, third] → package ∈ packages :=
    fun hIn => (sorted_perm packages).subset (hSublist.subset hIn)
  have hOwn : '|' ∉ a.vendor.toList := hPlain first (hMember (by simp)) a hFirst
  have hOther : '|' ∉ b.vendor.toList := hPlain second (hMember (by simp)) b hSecond
  -- The vendor with its bar begins both keys around, so it begins the key between them.
  have hBefore := not_lt_of_not_precedes hSecond hFirst hSameKind hSameLevel hNotSecond
  have hBehind := not_lt_of_not_precedes hThird hSecond (hSameKind.trans hKind).symm
    (hSameLevel.trans hLevel).symm hNotThird
  rw [← hVendor] at hBehind
  have hPrefix : a.vendor.toList ++ ['|'] <+: b.vendor.toList ++ '|' :: b.name.toList :=
    prefix_of_between (x := a.name.toList) (y := c.name.toList) (by simpa using hBefore)
      (by simpa using hBehind)
  obtain ⟨rest, hRest⟩ := hPrefix
  rw [List.append_assoc] at hRest
  exact (String.toList_inj.mp (eq_of_separated hOwn hOther hRest).1).symm

/-- Packages of one kind and level are listed by vendor, by name and the newest first, unless one
vendor goes on behind the other with a character up to the bar. And vendors without a bar in their
names have their packages together. -/
theorem vendors_listed (hFirst : first.variant.offer? = some a)
    (hSecond : second.variant.offer? = some b) (hKind : first.kind = second.kind)
    (hLevel : first.apiLevel = second.apiLevel) (hPlain : HavePlainVendors packages) :
    IsOrdered first second a b ∧ StandTogether (sorted packages) :=
  ⟨isOrdered hFirst hSecond hKind hLevel, standTogether_sorted hPlain⟩

/-- An extra with a vendor and a path. -/
def extraOf (vendor path : String) : Package where
  variant := .extra vendor path 0

/-- An add-on with a vendor and a name. -/
def addonOf (vendor name : String) : Package where
  variant := .addon name vendor 8 "" []

/-- Two extras of vendors that part in their first letters. -/
theorem bell_follows_acme :
    IsOrdered (extraOf "acme" "x") (extraOf "bell" "w") ⟨"acme", "x"⟩ ⟨"bell", "w"⟩ ∧
      StandTogether (sorted [extraOf "acme" "x", extraOf "bell" "w", extraOf "acme" "z"]) := by
  refine vendors_listed rfl rfl rfl rfl ?_
  intro package hMember offer hOffer
  simp only [List.mem_cons, List.not_mem_nil, or_false] at hMember
  obtain rfl | rfl | rfl := hMember
  all_goals
    cases hOffer
    decide

/-- A longer vendor ahead of the shorter one, and two add-ons of different vendors that tie. -/
theorem longer_vendor_first :
    "a" < "ab" ∧ (extraOf "a" "x").precedes (extraOf "ab" "x") = false ∧
      (addonOf "a|b" "c").precedes (addonOf "a" "b|c") = false ∧
      (addonOf "a" "b|c").precedes (addonOf "a|b" "c") = false := by
  decide

end SdkFeed.Package
