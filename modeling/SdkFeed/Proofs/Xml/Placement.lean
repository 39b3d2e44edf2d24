import SdkFeed.Proofs.Xml.Renaming

/-! Trees without the lines on which their elements stand, and without the prefixes in scope. Lines change
whenever something is put in or taken out further up in a document, and nobody but the check looks at
lines or prefixes. -/
namespace SdkFeed.Xml.Element

mutual

/-- A tree with every element on no line. -/
def unplaced : Tree → Tree
  | mk name attributes _ content _ => mk name attributes 0 (unplacedContent content)

/-- Pieces of content with every element on no line. -/
def unplacedContent : List (Item Tree) → List (Item Tree)
  | [] => []
  | .text s :: rest => .text s :: unplacedContent rest
  | .reference :: rest => .reference :: unplacedContent rest
  | .child element :: rest => .child (unplaced element) :: unplacedContent rest

end

theorem unplacedContent_eq_map (items : List (Item Tree)) :
    unplacedContent items = items.map (Item.map unplaced) := by
  induction items with
  | nil => rfl
  | cons item rest ih =>
      cases item with
      | text s => rw [unplacedContent, ih]; rfl
      | reference => rw [unplacedContent, ih]; rfl
      | child element => rw [unplacedContent, ih]; rfl

@[simp] theorem name_unplaced (element : Tree) : element.unplaced.name = element.name := by
  cases element
  rfl

theorem keepsContent_unplaced : KeepsContent unplaced where
  attributes element := by
    cases element
    rfl
  content element := by
    obtain ⟨name, attributes, line, items, scope⟩ := element
    exact unplacedContent_eq_map items

end SdkFeed.Xml.Element
