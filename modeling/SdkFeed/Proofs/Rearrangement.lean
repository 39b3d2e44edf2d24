import Mathlib.Data.List.Sort
import Mathlib.Logic.Equiv.Basic

/-! Lists in another order. A rearrangement gives every member a new place and leaves those that are tied
to each other in the order they had, so nothing that looks at tied members alone can tell it. -/
namespace SdkFeed

variable {α : Type}

/-- A way to put the members of one list in the order of another one in which tied members do not
overtake each other. -/
structure Rearrangement (tied : α → α → Prop) (before after : List α) where
  /-- The new place of the member at a place. -/
  place : Fin before.length ≃ Fin after.length
  member : ∀ i, after.get (place i) = before.get i
  inOrder : ∀ i j, i < j → tied (before.get i) (before.get j) → place i < place j

namespace Rearrangement

variable {tied : α → α → Prop} {before after : List α}

theorem filter_eq_map (holds : α → Bool) (members : List α) : members.filter holds =
    ((List.finRange members.length).filter fun i => holds (members.get i)).map members.get := by
  conv_lhs => rw [← List.map_get_finRange members, List.filter_map]
  rfl

/-- Members that are all tied to each other are found in the same order. -/
theorem filter_eq (rearranged : Rearrangement tied before after) {holds : α → Bool}
    (hTied : ∀ a b, holds a = true → holds b = true → tied a b) :
    after.filter holds = before.filter holds := by
  -- The places of these members after the rearrangement, listed in two ways, are in ascending order.
  have hPlaces : (List.finRange after.length).filter (fun i => holds (after.get i)) =
      ((List.finRange before.length).filter fun i => holds (before.get i)).map rearranged.place := by
    apply List.Pairwise.eq_of_mem_iff (r := (· < ·))
    · exact (List.sortedLT_finRange _).pairwise.filter _
    · rw [List.pairwise_map]
      refine ((List.sortedLT_finRange _).pairwise.filter _).imp_of_mem ?_
      intro i j hFirst hSecond hBefore
      exact rearranged.inOrder i j hBefore
        (hTied _ _ (List.mem_filter.mp hFirst).2 (List.mem_filter.mp hSecond).2)
    · intro place
      obtain ⟨i, rfl⟩ := rearranged.place.surjective place
      simp [-List.get_eq_getElem, rearranged.member]
  rw [filter_eq_map, hPlaces, List.map_map, filter_eq_map holds before]
  apply List.map_congr_left
  intro i _
  exact rearranged.member i

theorem val_swap (count : Nat) (i : Fin (count + 2)) : (Equiv.swap 0 1 i).val =
    if i.val = 0 then 1 else if i.val = 1 then 0 else i.val := by
  rw [Equiv.swap_apply_def]
  simp only [apply_ite Fin.val, Fin.ext_iff, Fin.val_zero, Fin.val_one]

/-- The first two members may change places unless they are tied. -/
def swapFirst {first second : α} (rest : List α) (hFree : ¬ tied first second) :
    Rearrangement tied (first :: second :: rest) (second :: first :: rest) where
  place := Equiv.swap (0 : Fin (rest.length + 2)) 1
  member := by
    refine Fin.cases ?_ (Fin.cases ?_ fun i => ?_)
    · rw [Equiv.swap_apply_left]
      rfl
    · rw [show Fin.succ 0 = (1 : Fin (rest.length + 2)) from rfl, Equiv.swap_apply_right]
      rfl
    · rw [Equiv.swap_apply_of_ne_of_ne (Fin.succ_ne_zero _) (by simp [Fin.ext_iff])]
      rfl
  inOrder := by
    intro i j hBefore hTied
    have hOthers : ¬ (i.val = 0 ∧ j.val = 1) := by
      rintro ⟨hFirst, hSecond⟩
      obtain rfl : i = ⟨0, by simp⟩ := Fin.ext hFirst
      obtain rfl : j = ⟨1, by simp⟩ := Fin.ext hSecond
      exact hFree hTied
    have hBefore : i.val < j.val := hBefore
    change (Equiv.swap (0 : Fin (rest.length + 2)) 1 i).val < (Equiv.swap 0 1 j).val
    rw [val_swap, val_swap]
    split_ifs <;> omega

end Rearrangement

end SdkFeed
