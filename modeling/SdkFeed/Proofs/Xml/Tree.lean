import Mathlib.Logic.Basic
import SdkFeed.Xml.Namespace

/-! Trees as a whole: induction over the elements of a tree, and properties that all of them have. -/
namespace SdkFeed.Xml.Element

variable {ν : Type} {element child : Element ν}

theorem mem_children : child ∈ element.children ↔ Item.child child ∈ element.content := by
  rw [children, List.mem_filterMap]
  constructor
  · rintro ⟨item, hItem, hChild⟩
    cases item with
    | text | reference => cases hChild
    | child other =>
        obtain rfl := Option.some.inj hChild
        exact hItem
  · intro hItem
    exact ⟨_, hItem, rfl⟩

theorem sizeOf_lt_of_mem_children (hChild : child ∈ element.children) :
    sizeOf child < sizeOf element := by
  obtain ⟨name, attributes, line, content, scope⟩ := element
  have hItem := List.sizeOf_lt_of_mem (mem_children.mp hChild)
  simp only [Item.child.sizeOf_spec, mk.sizeOf_spec, Element.content] at hItem ⊢
  omega

/-- What holds of an element whenever it holds of its children holds of every element. -/
theorem childInduction {motive : Element ν → Prop}
    (step : ∀ element, (∀ child ∈ element.children, motive child) → motive element)
    (element : Element ν) : motive element :=
  step element fun child _ => childInduction step child
termination_by sizeOf element
decreasing_by exact sizeOf_lt_of_mem_children ‹_›

/-- Every element of a tree has a property, the outermost one included. -/
inductive Everywhere (holds : Element ν → Prop) : Element ν → Prop
  | intro {element : Element ν} (here : holds element)
      (inside : ∀ child ∈ element.children, Everywhere holds child) : Everywhere holds element

theorem everywhere_iff {holds : Element ν → Prop} : Everywhere holds element ↔
    holds element ∧ ∀ child ∈ element.children, Everywhere holds child := by
  constructor
  · rintro ⟨hHere, hInside⟩
    exact ⟨hHere, hInside⟩
  · rintro ⟨hHere, hInside⟩
    exact ⟨hHere, hInside⟩

theorem Everywhere.imp {holds others : Element ν → Prop} (hEverywhere : Everywhere holds element)
    (hImplied : ∀ element, holds element → others element) : Everywhere others element := by
  induction hEverywhere with
  | intro hHere _ ih => exact ⟨hImplied _ hHere, ih⟩

section

variable (holds : Element ν → Prop) [DecidablePred holds]

mutual

/-- Whether every element of a tree has a property. -/
def decideEverywhere : (element : Element ν) → Decidable (Everywhere holds element)
  | mk name attributes line content scope =>
    have := decideInside content
    decidable_of_iff (holds (mk name attributes line content scope) ∧
      ∀ child ∈ content.filterMap Item.child?, Everywhere holds child) everywhere_iff.symm

/-- Whether every element inside a list of pieces of content has a property. -/
def decideInside : (items : List (Item (Element ν))) →
    Decidable (∀ child ∈ items.filterMap Item.child?, Everywhere holds child)
  | [] => isTrue nofun
  | .text _ :: rest => decideInside rest
  | .reference :: rest => decideInside rest
  | .child element :: rest =>
    have := decideEverywhere element
    have := decideInside rest
    decidable_of_iff (Everywhere holds element ∧
      ∀ child ∈ rest.filterMap Item.child?, Everywhere holds child) List.forall_mem_cons.symm

end

end

instance (holds : Element ν → Prop) [DecidablePred holds] : DecidablePred (Everywhere holds) :=
  decideEverywhere holds

end SdkFeed.Xml.Element
