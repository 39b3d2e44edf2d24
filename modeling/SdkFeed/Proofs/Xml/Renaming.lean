import SdkFeed.Proofs.Xml.Tree

/-! Trees whose elements are changed throughout while their texts and attributes stay where they are:
trees without the prefixes in scope, and trees moved from one namespace into another, where only the
names of elements change. -/
namespace SdkFeed.Xml

/-- A piece of content whose child element is replaced. -/
def Item.map {α β : Type} (change : α → β) : Item α → Item β
  | text s => text s
  | reference => reference
  | child element => child (change element)

theorem Item.text?_map {α β : Type} (change : α → β) (item : Item α) :
    (item.map change).text? = item.text? := by
  cases item <;> rfl

theorem Item.child?_map {α β : Type} (change : α → β) (item : Item α) :
    (item.map change).child? = item.child?.map change := by
  cases item <;> rfl

theorem Item.filterMap_text?_map {α β : Type} (change : α → β) (items : List (Item α)) :
    (items.map (Item.map change)).filterMap Item.text? = items.filterMap Item.text? := by
  rw [List.filterMap_map]
  congr 1
  funext item
  exact Item.text?_map change item

theorem Item.filterMap_child?_map {α β : Type} (change : α → β) (items : List (Item α)) :
    (items.map (Item.map change)).filterMap Item.child? = (items.filterMap Item.child?).map change := by
  rw [List.filterMap_map, List.map_filterMap]
  congr 1
  funext item
  exact Item.child?_map change item

theorem Item.text_mem_map {α β : Type} {change : α → β} {items : List (Item α)} {s : String} :
    Item.text s ∈ items.map (Item.map change) ↔ Item.text s ∈ items := by
  constructor
  · intro hText
    obtain ⟨item, hItem, hSame⟩ := List.mem_map.mp hText
    cases item with
    | text other =>
        cases hSame
        exact hItem
    | reference | child => cases hSame
  · intro hText
    exact List.mem_map.mpr ⟨_, hText, rfl⟩

theorem Item.reference_mem_map {α β : Type} {change : α → β} {items : List (Item α)} :
    Item.reference ∈ items.map (Item.map change) ↔ Item.reference ∈ items := by
  constructor
  · intro hReference
    obtain ⟨item, hItem, hSame⟩ := List.mem_map.mp hReference
    cases item with
    | reference => exact hItem
    | text | child => cases hSame
  · intro hReference
    exact List.mem_map.mpr ⟨_, hReference, rfl⟩

namespace Element

/-- A change of trees that goes through all their elements and leaves the attributes and the texts of
each where they are. -/
structure KeepsContent (change : Tree → Tree) : Prop where
  attributes : ∀ element, (change element).attributes = element.attributes
  content : ∀ element, (change element).content = element.content.map (Item.map change)

namespace KeepsContent

variable {change : Tree → Tree} {element : Tree}

theorem attribute? (hKeeps : KeepsContent change) (name : Name) :
    (change element).attribute? name = element.attribute? name := by
  rw [Element.attribute?, hKeeps.attributes, Element.attribute?]

theorem children (hKeeps : KeepsContent change) :
    (change element).children = element.children.map change := by
  rw [Element.children, hKeeps.content, Item.filterMap_child?_map, Element.children]

theorem text? (hKeeps : KeepsContent change) : (change element).text? = element.text? := by
  have hChild : (fun item => item.child?.isNone) ∘ Item.map change =
      fun item : Item Tree => item.child?.isNone := by
    funext item
    rw [Function.comp, Item.child?_map, Option.isNone_map]
  have hLeading : (change element).leadingTexts = element.leadingTexts := by
    rw [leadingTexts, hKeeps.content, List.takeWhile_map, Item.filterMap_text?_map, hChild, leadingTexts]
  rw [Element.text?, hLeading, Element.text?]

theorem contentText_map {items : List (Item Tree)}
    (hInside : ∀ child ∈ items.filterMap Item.child?, (change child).innerText = child.innerText) :
    contentText (items.map (Item.map change)) = contentText items := by
  induction items with
  | nil => rfl
  | cons item rest ih =>
      cases item with
      | text s => rw [List.map_cons, Item.map, contentText, ih hInside, contentText]
      | reference => rw [List.map_cons, Item.map, contentText, ih hInside, contentText]
      | child element =>
          obtain ⟨hHere, hRest⟩ := List.forall_mem_cons.mp hInside
          rw [List.map_cons, Item.map, contentText, hHere, ih hRest, contentText]

theorem innerText (hKeeps : KeepsContent change) (element : Tree) :
    (change element).innerText = element.innerText := by
  have hContent (element : Tree) : element.innerText = contentText element.content := by
    cases element
    rfl
  induction element using childInduction with
  | step element ih => rw [hContent, hKeeps.content, contentText_map ih, ← hContent]

end KeepsContent

end Element

namespace Element

variable {element other : Tree}

theorem bareContent_eq_map (items : List (Item Tree)) :
    bareContent items = items.map (Item.map bare) := by
  induction items with
  | nil => rfl
  | cons item rest ih =>
      cases item with
      | text s => rw [bareContent, ih]; rfl
      | reference => rw [bareContent, ih]; rfl
      | child element => rw [bareContent, ih]; rfl

@[simp] theorem name_bare : element.bare.name = element.name := by
  cases element
  rfl

theorem keepsContent_bare : KeepsContent bare where
  attributes element := by
    cases element
    rfl
  content element := by
    obtain ⟨name, attributes, line, items, scope⟩ := element
    exact bareContent_eq_map items

/-- There are no prefixes to take away twice. -/
@[simp] theorem bare_bare (element : Tree) : element.bare.bare = element.bare := by
  induction element using childInduction with
  | step element ih =>
      obtain ⟨name, attributes, line, items, scope⟩ := element
      rw [bare, bare, bareContent_eq_map, bareContent_eq_map, List.map_map]
      congr 1
      apply List.map_congr_left
      intro item hItem
      cases item with
      | text | reference => rfl
      | child element =>
          have hSame := ih element (mem_children.mpr hItem)
          rw [Function.comp, Item.map, Item.map, hSame]

/-- Elements that differ only in the prefixes in scope have the same name. -/
theorem name_of_bare (hSame : element.bare = other.bare) : element.name = other.name := by
  rw [← name_bare, hSame, name_bare]

theorem attributes_of_bare (hSame : element.bare = other.bare) :
    element.attributes = other.attributes := by
  rw [← keepsContent_bare.attributes, hSame, keepsContent_bare.attributes]

theorem content_of_bare (hSame : element.bare = other.bare) :
    element.content.map (Item.map bare) = other.content.map (Item.map bare) := by
  rw [← keepsContent_bare.content, hSame, keepsContent_bare.content]

end Element

/-- A name moved from one namespace into another; a name elsewhere stays. -/
def Name.moved (source target : String) (name : Name) : Name :=
  if name.space = source then ⟨target, name.label⟩ else name

@[simp] theorem Name.label_moved {source target : String} (name : Name) :
    (name.moved source target).label = name.label := by
  rw [moved]
  split <;> rfl

theorem Name.moved_of_space {source target : String} {name : Name} (hSpace : name.space = source) :
    name.moved source target = ⟨target, name.label⟩ :=
  if_pos hSpace

namespace Element

mutual

/-- A tree with every element of a namespace moved into another one. The prefixes in scope stay. -/
def moved (source target : String) : Tree → Tree
  | mk name attributes line content scope =>
    mk (name.moved source target) attributes line (movedContent source target content) scope

/-- Pieces of content with every element of a namespace moved into another one. -/
def movedContent (source target : String) : List (Item Tree) → List (Item Tree)
  | [] => []
  | .text s :: rest => .text s :: movedContent source target rest
  | .reference :: rest => .reference :: movedContent source target rest
  | .child element :: rest => .child (moved source target element) :: movedContent source target rest

end

variable {source target : String} {element : Tree}

theorem movedContent_eq_map (items : List (Item Tree)) :
    movedContent source target items = items.map (Item.map (moved source target)) := by
  induction items with
  | nil => rfl
  | cons item rest ih =>
      cases item with
      | text s => rw [movedContent, ih]; rfl
      | reference => rw [movedContent, ih]; rfl
      | child element => rw [movedContent, ih]; rfl

@[simp] theorem name_moved : (element.moved source target).name = element.name.moved source target := by
  cases element
  rfl

@[simp] theorem attributes_moved : (element.moved source target).attributes = element.attributes := by
  cases element
  rfl

@[simp] theorem scope_moved : (element.moved source target).scope = element.scope := by
  cases element
  rfl

@[simp] theorem content_moved : (element.moved source target).content =
    element.content.map (Item.map (moved source target)) := by
  obtain ⟨name, attributes, line, items, scope⟩ := element
  exact movedContent_eq_map items

theorem keepsContent_moved : KeepsContent (moved source target) :=
  ⟨fun _ => attributes_moved, fun _ => content_moved⟩

@[simp] theorem children_moved :
    (element.moved source target).children = element.children.map (moved source target) :=
  keepsContent_moved.children

theorem innerText_moved : (element.moved source target).innerText = element.innerText :=
  keepsContent_moved.innerText element

end Element

end SdkFeed.Xml
