import SdkFeed.Proofs.Package.Listing

/-! Listings are stable: packages with one key stay in the order they came in. A list in listing order
is fixed by what it holds for each key, so packages can be picked out of a listing, or be listed
after they were picked. -/
namespace SdkFeed.Package

theorem SortKey.eq_of_not_precedes {a b : SortKey} (hFirst : a.precedes b = false)
    (hSecond : b.precedes a = false) : a = b := by
  rw [Bool.eq_false_iff, Ne, precedes_iff] at hFirst hSecond
  obtain ⟨rank, level, name, revision⟩ := a
  obtain ⟨otherRank, otherLevel, otherName, otherRevision⟩ := b
  simp only [mk.injEq]
  grind

theorem precedes_irrefl (package : Package) : package.precedes package = false := by
  cases hBefore : package.precedes package with
  | false => rfl
  | true => exact hBefore.symm.trans (SortKey.precedes_asymm hBefore)

theorem sorted_perm (packages : List Package) : (sorted packages).Perm packages :=
  List.mergeSort_perm packages _

/-- The packages of a list that have a key. -/
def withKey (key : SortKey) (packages : List Package) : List Package :=
  packages.filter (·.sortKey == key)

/-- A listing keeps the order of packages with one key. -/
theorem withKey_sorted (key : SortKey) (packages : List Package) :
    withKey key (sorted packages) = withKey key packages := by
  have hAlike : (withKey key packages).Pairwise fun a b => (!b.precedes a) = true := by
    apply List.pairwise_of_forall_mem_list
    intro a hFirst b hSecond
    have hKey : b.sortKey = a.sortKey := by simp_all [withKey]
    have hSame : b.precedes a = a.precedes a := by rw [precedes, hKey, precedes]
    simp [hSame, precedes_irrefl]
  have hKept : (withKey key packages).Sublist (sorted packages) := by
    refine List.sublist_mergeSort ?_ ?_ hAlike List.filter_sublist
    · intro a b c hFirst hSecond
      rw [Bool.not_eq_true'] at *
      exact SortKey.precedes_trans hFirst hSecond
    · intro a b
      cases hBefore : a.precedes b with
      | false => simp
      | true => simp [show b.precedes a = false from SortKey.precedes_asymm hBefore]
  have hInside : (withKey key packages).Sublist (withKey key (sorted packages)) := by
    simpa [withKey] using hKept.filter (·.sortKey == key)
  have hLength : (withKey key (sorted packages)).length = (withKey key packages).length :=
    ((sorted_perm packages).filter _).length_eq
  exact (hInside.eq_of_length hLength.symm).symm

theorem mem_of_withKey_eq {xs ys : List Package} {package : Package}
    (hKeys : ∀ key, withKey key xs = withKey key ys) (hMember : package ∈ xs) : package ∈ ys := by
  have hAlike : package ∈ withKey package.sortKey xs := by simp [withKey, hMember]
  rw [hKeys] at hAlike
  exact (List.mem_filter.mp hAlike).1

/-- Two lists in listing order that hold the same for each key are one. -/
theorem eq_of_withKey_eq {xs ys : List Package}
    (hFirst : xs.Pairwise fun a b => b.precedes a = false)
    (hSecond : ys.Pairwise fun a b => b.precedes a = false)
    (hKeys : ∀ key, withKey key xs = withKey key ys) : xs = ys := by
  induction xs generalizing ys with
  | nil =>
      cases ys with
      | nil => rfl
      | cons b ys => cases mem_of_withKey_eq (fun key => (hKeys key).symm) List.mem_cons_self
  | cons a xs ih =>
      cases ys with
      | nil => cases mem_of_withKey_eq hKeys List.mem_cons_self
      | cons b ys =>
          -- Each head is somewhere in the other list, so neither stands before the other one.
          have hAfter : a.precedes b = false := by
            rcases List.mem_cons.mp (mem_of_withKey_eq hKeys List.mem_cons_self) with rfl | hIn
            · exact precedes_irrefl a
            · exact List.rel_of_pairwise_cons hSecond hIn
          have hBefore : b.precedes a = false := by
            rcases List.mem_cons.mp
              (mem_of_withKey_eq (fun key => (hKeys key).symm) List.mem_cons_self) with rfl | hIn
            · exact precedes_irrefl b
            · exact List.rel_of_pairwise_cons hFirst hIn
          have hKey : a.sortKey = b.sortKey := SortKey.eq_of_not_precedes hAfter hBefore
          have hHeads := hKeys a.sortKey
          simp only [withKey, List.filter_cons, hKey, BEq.rfl, if_true] at hHeads
          obtain rfl : a = b := (List.cons.inj hHeads).1
          refine congrArg (List.cons a) (ih hFirst.tail hSecond.tail fun key => ?_)
          have hTails := hKeys key
          simp only [withKey, List.filter_cons] at hTails ⊢
          split at hTails
          · exact (List.cons.inj hTails).2
          · exact hTails

theorem filter_sorted (keeps : Package → Bool) (packages : List Package) :
    (sorted packages).filter keeps = sorted (packages.filter keeps) := by
  refine eq_of_withKey_eq ((sorted_pairwise packages).filter keeps) (sorted_pairwise _) fun key => ?_
  rw [withKey_sorted, withKey, List.filter_filter]
  calc (sorted packages).filter (fun package => package.sortKey == key && keeps package)
      = (withKey key (sorted packages)).filter keeps := by
        rw [withKey, List.filter_filter]
        simp only [Bool.and_comm]
    _ = (withKey key packages).filter keeps := by rw [withKey_sorted]
    _ = withKey key (packages.filter keeps) := by
        rw [withKey, withKey, List.filter_filter, List.filter_filter]
        simp only [Bool.and_comm]

end SdkFeed.Package
