import Mathlib.Data.List.TakeDrop
import Mathlib.Data.List.TakeWhile
import SdkFeed.Feed.Version
import SdkFeed.Proofs.Xml.Defaults
import SdkFeed.Proofs.Xml.Root

/-! The expanded name of the root element. Its prefix stands for the namespace that the root element
itself declares for it, so whoever looks the declaration up among the attributes comes to the same
namespace as the reader of the whole document. -/
namespace SdkFeed.Xml

theorem span_colon {before : List Char} (hPlain : ':' ∉ before) (behind : List Char) :
    (before ++ ':' :: behind).span (· != ':') = (before, ':' :: behind) := by
  have hAll : ∀ c ∈ before, (c != ':') = true :=
    fun c hMember => bne_iff_ne.mpr fun hSame => hPlain (hSame ▸ hMember)
  rw [List.span_eq_takeWhile_dropWhile, List.takeWhile_append_of_pos hAll,
    List.dropWhile_append_of_pos hAll]
  simp

theorem span_plain {chars : List Char} (hPlain : ':' ∉ chars) :
    chars.span (· != ':') = (chars, []) := by
  have hAll : ∀ c ∈ chars, (c != ':') = true :=
    fun c hMember => bne_iff_ne.mpr fun hSame => hPlain (hSame ▸ hMember)
  rw [List.span_eq_takeWhile_dropWhile, List.takeWhile_eq_self_iff.mpr hAll,
    List.dropWhile_eq_nil_iff.mpr hAll]

/-- A name either holds no colon or is split by its first one. -/
theorem plain_or_split (chars : List Char) :
    ':' ∉ chars ∨ ∃ before behind, chars = before ++ ':' :: behind ∧ ':' ∉ before := by
  by_cases hColon : ':' ∈ chars
  · exact Or.inr (List.eq_append_cons_of_mem hColon)
  · exact Or.inl hColon

theorem splitName_plain {name : String} (hPlain : ':' ∉ name.toList) :
    splitName name = ("", name) := by
  rw [splitName, span_plain hPlain]

theorem splitName_split {name : String} {before behind : List Char}
    (hName : name.toList = before ++ ':' :: behind) (hPlain : ':' ∉ before) :
    splitName name = (String.ofList before, String.ofList behind) := by
  rw [splitName, hName, span_colon hPlain]

/-- The attribute that declares the namespace of a prefix. -/
def declarationKey (label : String) : String :=
  if label = "" then "xmlns" else "xmlns:" ++ label

theorem declaredPrefix?_eq_some {key label : String} (hNamed : key ≠ namelessPrefix) :
    declaredPrefix? key = some label ↔ key = declarationKey label := by
  constructor
  · intro hDeclared
    rw [declaredPrefix?] at hDeclared
    split at hDeclared
    · rename_i hDefault
      obtain rfl := Option.some.inj hDeclared
      exact eq_of_beq hDefault
    · split at hDeclared
      · rename_i rest hSplit
        obtain rfl := Option.some.inj hDeclared
        rcases plain_or_split key.toList with hPlain | ⟨before, behind, hKey, hPlain⟩
        · rw [splitName_plain hPlain] at hSplit
          exact absurd (Prod.mk.inj hSplit).1 (by decide)
        · rw [splitName_split hKey hPlain] at hSplit
          obtain ⟨hBefore, rfl⟩ := Prod.mk.inj hSplit
          have hText : key = "xmlns:" ++ String.ofList behind := by
            rw [← String.toList_inj, hKey, ← String.toList_ofList (l := before), hBefore]
            simp
          have hLabel : String.ofList behind ≠ "" := by
            intro hEmpty
            exact hNamed (by rw [hText, hEmpty]; rfl)
          rw [declarationKey, if_neg hLabel, hText]
      · cases hDeclared
  · rintro rfl
    rw [declarationKey]
    split
    · rename_i hEmpty
      rw [hEmpty]
      rfl
    · rename_i hLabel
      have hKey : ("xmlns:" ++ label).toList = "xmlns".toList ++ ':' :: label.toList := by simp
      have hSplit := splitName_split hKey (by decide)
      have hOther : ("xmlns:" ++ label == "xmlns") = false := by
        rw [beq_eq_false_iff_ne]
        intro hSame
        have hLength := congrArg (fun s => s.toList.length) hSame
        simp at hLength
      simp only [declaredPrefix?, hOther, hSplit]
      simp

namespace Scope

variable {scope inner : Scope} {attributes : List (String × String)} {label space : String}

/-- One namespace declaration, or what is none. -/
theorem enter_cons {key value : String} (hEnter : scope.enter ((key, value) :: attributes) = .ok inner) :
    (declaredPrefix? key = none ∧ scope.enter attributes = .ok inner) ∨
    ∃ label, declaredPrefix? key = some label ∧
      Scope.enter ((label, value) :: scope) attributes = .ok inner := by
  obtain ⟨next, hNext, hRest⟩ := bind_eq_ok.mp hEnter
  simp only at hNext
  split at hNext
  · rename_i hNone
    exact Or.inl ⟨hNone, Except.ok.inj hNext ▸ hRest⟩
  · rename_i label hLabel
    split at hNext
    · exact Or.inr ⟨label, hLabel, Except.ok.inj hNext ▸ hRest⟩
    · cases hNext

/-- A prefix that no attribute declares stands for what it stood for outside. -/
theorem enter_lookup_other (hOther : ∀ pair ∈ attributes, declaredPrefix? pair.1 ≠ some label)
    (hEnter : scope.enter attributes = .ok inner) : inner.lookup label = scope.lookup label := by
  induction attributes generalizing scope with
  | nil => rw [Except.ok.inj hEnter]
  | cons pair rest ih =>
      obtain ⟨key, value⟩ := pair
      have hRest : ∀ pair ∈ rest, declaredPrefix? pair.1 ≠ some label :=
        fun pair hMember => hOther pair (List.mem_cons_of_mem _ hMember)
      rcases enter_cons hEnter with ⟨_, hNext⟩ | ⟨declared, hDeclared, hNext⟩
      · exact ih hRest hNext
      · have hDifferent : label ≠ declared := by
          rintro rfl
          exact hOther (key, value) List.mem_cons_self hDeclared
        rw [ih hRest hNext, List.lookup_cons, beq_eq_false_iff_ne.mpr hDifferent]

/-- The prefix that an attribute declares stands for the value of this attribute. -/
theorem enter_lookup (hKeys : HasSoundKeys attributes)
    (hMember : (declarationKey label, space) ∈ attributes)
    (hEnter : scope.enter attributes = .ok inner) : inner.lookup label = some space := by
  induction attributes generalizing scope with
  | nil => cases hMember
  | cons pair rest ih =>
      obtain ⟨hFirst, hDistinct⟩ := List.pairwise_cons.mp hKeys.distinct
      have hNamed : ∀ pair ∈ rest, pair.1 ≠ namelessPrefix :=
        fun pair hLater => hKeys.named pair (List.mem_cons_of_mem _ hLater)
      rcases List.mem_cons.mp hMember with rfl | hLater
      · have hDeclared : declaredPrefix? (declarationKey label) = some label :=
          (declaredPrefix?_eq_some (hKeys.named _ List.mem_cons_self)).mpr rfl
        have hOther : ∀ pair ∈ rest, declaredPrefix? pair.1 ≠ some label := by
          intro pair hLater hSame
          exact hFirst pair hLater ((declaredPrefix?_eq_some (hNamed pair hLater)).mp hSame).symm
        rcases enter_cons hEnter with ⟨hNone, _⟩ | ⟨declared, hSome, hNext⟩
        · rw [hDeclared] at hNone
          cases hNone
        · obtain rfl : label = declared := Option.some.inj (hDeclared.symm.trans hSome)
          rw [enter_lookup_other hOther hNext, List.lookup_cons_self]
      · have hRest : HasSoundKeys rest := ⟨hDistinct, hNamed⟩
        obtain ⟨key, value⟩ := pair
        rcases enter_cons hEnter with ⟨_, hNext⟩ | ⟨declared, _, hNext⟩
        · exact ih hRest hLater hNext
        · exact ih hRest hLater hNext

/-- A prefix that stands for something else than outside is declared. -/
theorem enter_declared (hKeys : HasSoundKeys attributes) (hEnter : scope.enter attributes = .ok inner)
    (hInside : inner.lookup label = some space) (hOutside : scope.lookup label ≠ some space) :
    (declarationKey label, space) ∈ attributes := by
  by_cases hDeclared : ∃ pair ∈ attributes, declaredPrefix? pair.1 = some label
  · obtain ⟨⟨key, value⟩, hPair, hPrefix⟩ := hDeclared
    obtain rfl := (declaredPrefix?_eq_some (hKeys.named _ hPair)).mp hPrefix
    have hValue := enter_lookup hKeys hPair hEnter
    rw [hInside] at hValue
    rwa [Option.some.inj hValue]
  · have hOther : ∀ pair ∈ attributes, declaredPrefix? pair.1 ≠ some label :=
      fun pair hPair hPrefix => hDeclared ⟨pair, hPair, hPrefix⟩
    rw [enter_lookup_other hOther hEnter] at hInside
    exact absurd hInside hOutside

end Scope

/-- The value of an attribute is found by its name. -/
theorem HasSoundKeys.lookup_of_mem {attributes : List (String × String)} {key value : String}
    (hKeys : HasSoundKeys attributes) (hPair : (key, value) ∈ attributes) :
    attributes.lookup key = some value := by
  obtain ⟨front, back, rfl⟩ := List.append_of_mem hPair
  obtain ⟨_, _, hBefore⟩ := List.pairwise_append.mp hKeys.distinct
  refine List.lookup_eq_some_iff.mpr ⟨front, back, rfl, ?_⟩
  intro other hOther
  exact bne_iff_ne.mpr (hBefore other hOther _ List.mem_cons_self).symm

/-- A name that may stand in a tag is split alike by the reader of a version and by the reader of
namespaces. -/
theorem splitLabel_of_checkSplit {word : Word} (hCheck : word.checkSplit = .ok ()) :
    (Feed.splitLabel word.text = (none, word.text) ∧ splitName word.text = ("", word.text)) ∨
    ∃ label rest, label ≠ "" ∧ Feed.splitLabel word.text = (some label, rest) ∧
      splitName word.text = (label, rest) := by
  rcases plain_or_split word.text.toList with hPlain | ⟨before, behind, hText, hPlain⟩
  · refine Or.inl ⟨?_, splitName_plain hPlain⟩
    rw [Feed.splitLabel, span_plain hPlain]
    split
    · rename_i hPair
      cases (Prod.mk.inj hPair).2
    · rfl
  · simp only [Word.checkSplit, hText, span_colon hPlain] at hCheck
    cases before with
    | nil => cases hCheck
    | cons first before =>
        cases behind with
        | nil => cases hCheck
        | cons second behind =>
            refine Or.inr ⟨String.ofList (first :: before), String.ofList (second :: behind), ?_, ?_,
              splitName_split hText hPlain⟩
            · intro hEmpty
              have hChars := congrArg String.toList hEmpty
              rw [String.toList_ofList] at hChars
              cases hChars
            · rw [Feed.splitLabel, hText, span_colon hPlain]

/-- A tree that is read comes from a document whose names are in order. -/
theorem read_eq_ok {bytes : List UInt8} {document : Document} {root : Tree}
    (hDocument : Document.ofBytes bytes = .ok document) (hRead : read bytes = .ok root) :
    document.checkNames = .ok () ∧ document.resolve = .ok root := by
  obtain ⟨text, hText, hRest⟩ := bind_eq_ok.mp hRead
  obtain ⟨sameText, hSame, hOfText⟩ := bind_eq_ok.mp hDocument
  obtain rfl : text = sameText := Except.ok.inj (hText.symm.trans hSame)
  cases hFound : Document.ofText? text with
  | none => simp only [hFound] at hOfText; cases hOfText
  | some found =>
      simp only [hFound] at hOfText hRest
      obtain rfl := Except.ok.inj hOfText
      obtain ⟨done, hNames, hResolve⟩ := bind_eq_ok.mp hRest
      exact ⟨mapError_eq_ok.mp hNames, mapError_eq_ok.mp hResolve⟩

theorem Document.ofBytes_eq_ok {bytes : List UInt8} {document : Document}
    (hDocument : ofBytes bytes = .ok document) :
    ∃ text, Text.ofBytes bytes = .ok text ∧ ofText? text = some document := by
  obtain ⟨text, hText, hRest⟩ := bind_eq_ok.mp hDocument
  refine ⟨text, hText, ?_⟩
  cases hFound : ofText? text with
  | none => rw [hFound] at hRest; cases hRest
  | some found =>
      rw [hFound] at hRest
      rw [Except.ok.inj hRest]

/-- Where the names of a document are in order, those in the tag of its root are. -/
theorem Document.checkNames_root {document : Document} {text : Text} {tag : Tag}
    {rest : List Token} (hNames : document.checkNames = .ok ())
    (hDoctype : doctypeOf? text document.outline = some document.doctype)
    (hTokens : document.outline.root = .openTag tag :: rest) :
    tag.name.checkSplit = .ok () ∧
      ∀ attributes, document.doctype.attributes? tag = some attributes → HasSoundKeys attributes := by
  obtain ⟨_, hOpening, hAfter⟩ := bind_eq_ok.mp hNames
  obtain ⟨scopes, hRoot, _⟩ := bind_eq_ok.mp hAfter
  rw [hTokens] at hRoot
  obtain ⟨_, hFirst, _⟩ := bind_eq_ok.mp hRoot
  obtain ⟨_, hTag, _⟩ := bind_eq_ok.mp hFirst
  obtain ⟨_, hName, hAfterName⟩ := bind_eq_ok.mp hTag
  obtain ⟨_, hPairs, _⟩ := bind_eq_ok.mp hAfterName
  refine ⟨hName, fun attributes hAttributes => ?_⟩
  refine (doctypeOf?_isSound hOpening hDoctype).attributes? ?_ hAttributes
  intro pair hPair
  obtain ⟨_, hKey, _⟩ := bind_eq_ok.mp (ok_of_forM hPairs pair hPair)
  exact Word.checkSplit_named hKey

/-- The name of an element is expanded in the scope inside it. -/
theorem Element.resolve_name {scope : Scope} {element : RawElement} {tree : Tree}
    (hResolve : element.resolve scope = .ok tree) :
    ∃ inner, scope.enter element.attributes = .ok inner ∧
      inner.elementName element.name = .ok tree.name := by
  obtain ⟨name, attributes, line, content, _⟩ := element
  obtain ⟨⟨inner, expanded, values⟩, hExpand, hRest⟩ := bind_eq_ok.mp hResolve
  obtain ⟨items, _, hTree⟩ := bind_eq_ok.mp hRest
  obtain rfl := Except.ok.inj hTree
  obtain ⟨scopeInside, hEnter, hRest⟩ := bind_eq_ok.mp hExpand
  obtain ⟨_, _, hRest⟩ := bind_eq_ok.mp hRest
  obtain ⟨found, hName, hAll⟩ := bind_eq_ok.mp hRest
  obtain ⟨rfl, hPair⟩ := Prod.mk.inj (Except.ok.inj hAll)
  obtain ⟨rfl, _⟩ := Prod.mk.inj hPair
  exact ⟨scopeInside, hEnter, hName⟩

/-- The name of the root element is expanded in the scope that its own tag makes. The reader of a
version looks for the declaration of the same prefix, and at the same label. -/
theorem read_root_scope {bytes : List UInt8} {document : Document} {root : Tree}
    (hDocument : Document.ofBytes bytes = .ok document) (hRead : read bytes = .ok root) :
    HasSoundKeys document.root.attributes ∧
    ∃ inner label, Scope.outermost.enter document.root.attributes = .ok inner ∧
      inner.elementName document.root.name = .ok root.name ∧
      splitName document.root.name = (label, (Feed.splitLabel document.root.name).2) ∧
      Feed.declarationOf (Feed.splitLabel document.root.name).1 = declarationKey label := by
  obtain ⟨hNames, hResolve⟩ := read_eq_ok hDocument hRead
  obtain ⟨text, _, hText⟩ := Document.ofBytes_eq_ok hDocument
  obtain ⟨hDoctype, tag, rest, hTokens, hTagName, hAttributes⟩ := Document.ofText?_root hText
  obtain ⟨hSplit, hSound⟩ := document.checkNames_root hNames hDoctype hTokens
  obtain ⟨inner, hEnter, hExpanded⟩ := Element.resolve_name hResolve
  refine ⟨hSound _ hAttributes, inner, ?_⟩
  rw [hTagName] at hExpanded ⊢
  rcases splitLabel_of_checkSplit hSplit with ⟨hLabel, hName⟩ | ⟨label, own, hFilled, hLabel, hName⟩
  · refine ⟨"", hEnter, hExpanded, ?_, ?_⟩
    · rw [hLabel, hName]
    · rw [hLabel]
      rfl
  · refine ⟨label, hEnter, hExpanded, ?_, ?_⟩
    · rw [hLabel, hName]
    · rw [hLabel, declarationKey, if_neg hFilled, Feed.declarationOf]

/-- The name of the root element, when the namespace of its prefix is declared in its own tag. -/
theorem read_root_name {bytes : List UInt8} {document : Document} {root : Tree} {space : String}
    (hDocument : Document.ofBytes bytes = .ok document) (hRead : read bytes = .ok root)
    (hDeclared : document.root.attribute?
      (Feed.declarationOf (Feed.splitLabel document.root.name).1) = some space) :
    root.name = ⟨space, (Feed.splitLabel document.root.name).2⟩ := by
  obtain ⟨hKeys, inner, label, hEnter, hExpanded, hName, hKey⟩ := read_root_scope hDocument hRead
  have hMember : (declarationKey label, space) ∈ document.root.attributes := by
    rw [← hKey]
    exact mem_of_lookup_eq_some hDeclared
  have hSpace := Scope.enter_lookup hKeys hMember hEnter
  rw [Scope.elementName, hName] at hExpanded
  simp only [hSpace] at hExpanded
  exact (Except.ok.inj hExpanded).symm

/-- The tag of the root element declares the namespace of its prefix, unless it is in none or in the one
that needs no declaration. -/
theorem read_root_declares {bytes : List UInt8} {document : Document} {root : Tree}
    (hDocument : Document.ofBytes bytes = .ok document) (hRead : read bytes = .ok root)
    (hSome : root.name.space ≠ "") (hOther : root.name.space ≠ xmlSpace) :
    document.root.attribute? (Feed.declarationOf (Feed.splitLabel document.root.name).1) =
        some root.name.space ∧
      (Feed.splitLabel document.root.name).2 = root.name.label := by
  obtain ⟨hKeys, inner, label, hEnter, hExpanded, hName, hKey⟩ := read_root_scope hDocument hRead
  rw [Scope.elementName, hName] at hExpanded
  cases hLookup : inner.lookup label with
  | none =>
      simp only [hLookup] at hExpanded
      split at hExpanded
      · rw [← Except.ok.inj hExpanded] at hSome
        exact absurd rfl hSome
      · cases hExpanded
  | some space =>
      simp only [hLookup] at hExpanded
      rw [← Except.ok.inj hExpanded] at hOther ⊢
      -- Outside the root element nothing is declared but the prefix that is always bound.
      have hOutside : Scope.outermost.lookup label ≠ some space := by
        rw [Scope.outermost, List.lookup_cons, List.lookup_nil]
        split
        · intro hSame
          exact hOther (Option.some.inj hSame).symm
        · exact nofun
      rw [hKey]
      exact ⟨hKeys.lookup_of_mem (Scope.enter_declared hKeys hEnter hLookup hOutside), rfl⟩

end SdkFeed.Xml
