import SdkFeed.Xml.Read

/-! The root element of a document. Its tag is the first token of the root in the outline, and both
the tree with names as written and the tree with expanded names take their root from it. -/
namespace SdkFeed.Xml

namespace Forest

/-- The outermost element of a forest, open or closed, has a given name and given attributes. -/
def IsRooted (name : String) (attributes : List (String × String)) (forest : Forest) : Prop :=
  (forest.top = [] ∧ ∃ frame, forest.frames.getLast? = some frame ∧
    frame.name = name ∧ frame.attributes = attributes) ∨
  ∃ element, forest.top.getLast? = some (.child element) ∧
    element.name = name ∧ element.attributes = attributes

variable {name : String} {attributes : List (String × String)} {doctype : Doctype}
  {replace : String → Option Forest}

theorem IsRooted.append {forest : Forest} (hRooted : forest.IsRooted name attributes)
    (reversed : List (Item RawElement)) : (forest.append reversed).IsRooted name attributes := by
  obtain ⟨frames, top⟩ := forest
  cases frames with
  | nil =>
      rcases hRooted with ⟨_, frame, hLast, _⟩ | ⟨element, hLast, hName, hAttributes⟩
      · simp at hLast
      · refine Or.inr ⟨element, ?_, hName, hAttributes⟩
        rw [Forest.append, List.getLast?_append, hLast, Option.some_or]
  | cons inner frames =>
      rcases hRooted with ⟨hTop, frame, hLast, hName, hAttributes⟩ | ⟨element, hLast, hElement⟩
      · refine Or.inl ⟨hTop, ?_⟩
        cases frames with
        | nil =>
            obtain rfl : inner = frame := by simpa using hLast
            exact ⟨_, rfl, hName, hAttributes⟩
        | cons next rest => exact ⟨frame, by simpa [Forest.append] using hLast, hName, hAttributes⟩
      · exact Or.inr ⟨element, hLast, hElement⟩

theorem IsRooted.push {frames : List Frame} {top : List (Item RawElement)}
    (hRooted : IsRooted name attributes ⟨frames, top⟩) (frame : Frame) :
    IsRooted name attributes ⟨frame :: frames, top⟩ := by
  rcases hRooted with ⟨hTop, outer, hLast, hOuter⟩ | hClosed
  · refine Or.inl ⟨hTop, outer, ?_, hOuter⟩
    rw [List.getLast?_cons, hLast, Option.getD_some]
  · exact Or.inr hClosed

theorem IsRooted.pop {frame : Frame} {frames : List Frame} {top : List (Item RawElement)}
    (hRooted : IsRooted name attributes ⟨frame :: frames, top⟩) :
    (Forest.append ⟨frames, top⟩ [.child frame.element]).IsRooted name attributes := by
  rcases hRooted with ⟨hTop, outer, hLast, hName, hAttributes⟩ | hClosed
  · cases frames with
    | nil =>
        obtain rfl : frame = outer := by simpa using hLast
        subst hTop
        exact Or.inr ⟨frame.element, rfl, hName, hAttributes⟩
    | cons next rest =>
        have hInner : IsRooted name attributes ⟨next :: rest, top⟩ :=
          Or.inl ⟨hTop, outer, by simpa using hLast, hName, hAttributes⟩
        exact hInner.append _
  · have hInner : IsRooted name attributes ⟨frames, top⟩ := Or.inr hClosed
    exact hInner.append _

theorem IsRooted.step {forest after : Forest} {token : Token}
    (hRooted : forest.IsRooted name attributes)
    (hStep : forest.step doctype replace token = some after) :
    after.IsRooted name attributes := by
  cases token with
  | text chars | escaped chars =>
      simp only [Forest.step, Option.some.injEq] at hStep
      exact hStep ▸ hRooted.append _
  | instruction target =>
      simp only [Forest.step, Option.some.injEq] at hStep
      exact hStep ▸ hRooted
  | reference word =>
      simp only [Forest.step] at hStep
      split at hStep
      · cases hStep
      · exact Option.some.inj hStep ▸ hRooted.append _
      · obtain ⟨inner, _, hAfter⟩ := Option.bind_eq_some_iff.mp hStep
        exact Option.some.inj hAfter ▸ hRooted.append _
      · split at hStep
        · exact Option.some.inj hStep ▸ hRooted.append _
        · cases hStep
  | openTag tag =>
      obtain ⟨values, _, hAfter⟩ := Option.bind_eq_some_iff.mp hStep
      split at hAfter
      · exact Option.some.inj hAfter ▸ hRooted.append _
      · exact Option.some.inj hAfter ▸ hRooted.push _
  | closeTag label =>
      obtain ⟨frames, top⟩ := forest
      cases frames with
      | nil => cases hStep
      | cons frame frames =>
          simp only [Forest.step] at hStep
          split at hStep
          · exact Option.some.inj hStep ▸ hRooted.pop
          · cases hStep

theorem IsRooted.steps {tokens : List Token} {forest after : Forest}
    (hRooted : forest.IsRooted name attributes)
    (hSteps : tokens.foldlM (Forest.step doctype replace) forest = some after) :
    after.IsRooted name attributes := by
  induction tokens generalizing forest with
  | nil => exact Option.some.inj hSteps ▸ hRooted
  | cons token rest ih =>
      obtain ⟨middle, hStep, hRest⟩ := Option.bind_eq_some_iff.mp hSteps
      exact ih (hRooted.step hStep) hRest

/-- The forest of tokens that begin with a start tag has its root from this tag. -/
theorem ofTokens?_isRooted {tag : Tag} {rest : List Token} {forest : Forest}
    (hForest : ofTokens? doctype replace (.openTag tag :: rest) = some forest) :
    ∃ values, doctype.attributes? tag = some values ∧
      forest.IsRooted tag.name.text values := by
  obtain ⟨last, hSteps, hLast⟩ := Option.bind_eq_some_iff.mp hForest
  obtain ⟨_, _, hSame⟩ := Option.bind_eq_some_iff.mp hLast
  obtain rfl := Option.some.inj hSame
  obtain ⟨first, hFirst, hRest⟩ := Option.bind_eq_some_iff.mp hSteps
  obtain ⟨values, hValues, hOpened⟩ := Option.bind_eq_some_iff.mp hFirst
  refine ⟨values, hValues, ?_⟩
  have hRooted : first.IsRooted tag.name.text values := by
    split at hOpened
    · exact Option.some.inj hOpened ▸ Or.inr ⟨_, rfl, rfl, rfl⟩
    · exact Option.some.inj hOpened ▸ Or.inl ⟨rfl, _, rfl, rfl, rfl⟩
  exact hRooted.steps hRest

end Forest

theorem Outline.splitRoot_prefix (tokens acc : List Token) (depth : Nat) :
    acc.reverse <+: (splitRoot acc depth tokens).1 := by
  induction tokens generalizing acc depth with
  | nil => exact List.prefix_refl _
  | cons token rest ih =>
      have hGrown : ∀ inner, acc.reverse <+: (splitRoot (token :: acc) inner rest).1 := by
        intro inner
        refine List.IsPrefix.trans ?_ (ih (token :: acc) inner)
        rw [List.reverse_cons]
        exact List.prefix_append _ _
      have hEnd : acc.reverse <+: (token :: acc).reverse := by
        rw [List.reverse_cons]
        exact List.prefix_append _ _
      simp only [splitRoot]
      split
      · split
        · exact hGrown _
        · split
          · exact hEnd
          · exact hGrown _
      · split
        · exact hEnd
        · exact hGrown _
      · exact hGrown _

/-- The root of an outline begins with a start tag. -/
theorem Outline.read?_root {here : Cursor} {outline : Outline} (hRead : read? here = some outline) :
    ∃ tag rest, outline.root = .openTag tag :: rest := by
  obtain ⟨⟨opening, next⟩, _, hOpening⟩ := Option.bind_eq_some_iff.mp hRead
  obtain ⟨tokens, _, hTokens⟩ := Option.bind_eq_some_iff.mp hOpening
  split at hTokens
  · rename_i tag rest _
    obtain ⟨trailing, _, hOutline⟩ := Option.bind_eq_some_iff.mp hTokens
    obtain rfl := Option.some.inj hOutline
    have hPrefix : [Token.openTag tag] <+: (splitRoot [] 0 (.openTag tag :: rest)).1 := by
      simp only [splitRoot]
      split
      · exact splitRoot_prefix rest [.openTag tag] 1
      · exact List.prefix_refl _
    obtain ⟨behind, hBehind⟩ := hPrefix
    exact ⟨tag, behind, hBehind.symm⟩
  · cases hTokens

/-- The root element of a document has its name and its attributes from its start tag. -/
theorem Document.ofText?_root {text : Text} {document : Document}
    (hRead : ofText? text = some document) :
    doctypeOf? text document.outline = some document.doctype ∧
    ∃ tag rest, document.outline.root = .openTag tag :: rest ∧
      document.root.name = tag.name.text ∧
      document.doctype.attributes? tag = some document.root.attributes := by
  obtain ⟨outline, hOutline, hRest⟩ := Option.bind_eq_some_iff.mp hRead
  obtain ⟨doctype, hDoctype, hRest⟩ := Option.bind_eq_some_iff.mp hRest
  obtain ⟨forest, hForest, hRest⟩ := Option.bind_eq_some_iff.mp hRest
  obtain ⟨tag, rest, hTokens⟩ := Outline.read?_root hOutline
  rw [hTokens] at hForest
  obtain ⟨values, hValues, hRooted⟩ := Forest.ofTokens?_isRooted hForest
  split at hRest
  · rename_i root hTop
    obtain rfl := Option.some.inj hRest
    refine ⟨hDoctype, tag, rest, hTokens, ?_⟩
    rcases hRooted with ⟨hNone, _⟩ | ⟨element, hLast, hName, hAttributes⟩
    · rw [hTop] at hNone
      cases hNone
    · rw [hTop] at hLast
      obtain rfl : root = element := by simpa using hLast
      exact ⟨hName, hAttributes ▸ hValues⟩
  · cases hRest

end SdkFeed.Xml
