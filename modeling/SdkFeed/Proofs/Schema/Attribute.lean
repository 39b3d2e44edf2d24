import Mathlib.Data.List.Basic
import SdkFeed.Proofs.Schema.Acceptance

/-! The attributes of an accepted element: each one is known to its form and has a value that its rule
allows, and none that must be there is missing. -/
namespace SdkFeed.Schema

open SdkFeed.Xml

variable {rules : List AttributeRule} {rule : AttributeRule} {attributes : List (Name × String)}
  {label value : String}

/-- What an allowed value of an attribute is. Only its collapsed form counts. -/
def Allowed.Fits : Allowed → String → Prop
  | anything, _ => True
  | oneOf choices, value => collapsed value ∈ choices
  | exactly fixed, value => collapsed value = fixed

theorem AttributeRule.problem?_eq_none {name : Name} :
    rule.problem? name value = none ↔ rule.allowed.Fits value := by
  rw [problem?]
  cases rule.allowed with
  | anything => simp [Allowed.Fits]
  | oneOf choices => simp [Allowed.Fits]
  | exactly fixed => simp [Allowed.Fits]

/-- An attribute is in order: there is a rule for it, and the rule allows its value. -/
def IsInOrder (rules : List AttributeRule) (attr : Name × String) : Prop :=
  ∃ rule, ruleFor? rules attr.1 = some rule ∧ rule.allowed.Fits attr.2

theorem filter_isEarly_append_eq_nil {problems : List Problem} :
    problems.filter Problem.isEarly ++ problems.filter (!·.isEarly) = [] ↔ problems = [] := by
  constructor
  · intro hNone
    obtain ⟨hEarly, hLate⟩ := List.append_eq_nil_iff.mp hNone
    rw [List.filter_eq_nil_iff] at hEarly hLate
    by_contra hSome
    obtain ⟨problem, hIn⟩ := List.exists_mem_of_ne_nil _ hSome
    cases hKind : problem.isEarly with
    | true => exact hEarly problem hIn hKind
    | false => exact hLate problem hIn (by simp [hKind])
  · rintro rfl
    rfl

theorem attributeProblems_eq_nil : attributeProblems rules attributes = [] ↔
    (∀ attr ∈ attributes, isInstance attr.1 = false → IsInOrder rules attr) ∧
    ∀ rule ∈ rules, rule.isRequired = true → (attributes.lookup ⟨"", rule.label⟩).isSome = true := by
  simp only [attributeProblems]
  rw [List.append_eq_nil_iff, filter_isEarly_append_eq_nil]
  apply and_congr
  · simp only [List.filterMap_eq_nil_iff, List.mem_filter, Bool.not_eq_true', and_imp]
    apply forall₃_congr
    intro attr hAttr hOwn
    rw [IsInOrder]
    cases ruleFor? rules attr.1 with
    | none => simp
    | some rule => simp [AttributeRule.problem?_eq_none]
  · simp [List.filter_eq_nil_iff]

namespace Edition

variable {edition : Edition} {form : Form} {element : Tree}

/-- No other form is derived from one with attributes. -/
theorem eq_of_isKindOf {actual : Form} (hKind : actual.isKindOf form = true)
    (hRule : rule ∈ form.attributes) : actual = form := by
  apply (Form.isKindOf_iff.mp hKind).resolve_right
  intro hBase
  obtain ⟨_, base, rfl, _⟩ := Form.exists_value_of_mem_bases hBase
  cases hRule

/-- The attributes of an element that should have some are in order. -/
theorem Accepts.attributes_inOrder (hAccepts : edition.Accepts form element)
    (hRule : rule ∈ form.attributes) :
    attributeProblems form.attributes element.attributes = [] := by
  obtain ⟨actual, hKind, hAttributes, _⟩ := hAccepts.exists_form
  rw [eq_of_isKindOf hKind hRule] at hAttributes
  exact hAttributes

/-- The value of an attribute is one that its rule allows. -/
theorem Accepts.attribute_fits (hAccepts : edition.Accepts form element)
    (hRule : form.attributes.find? (·.label == label) = some rule)
    (hValue : element.attribute? ⟨"", label⟩ = some value) : rule.allowed.Fits value := by
  have hIn := List.mem_of_find?_eq_some hRule
  obtain ⟨hKnown, _⟩ := attributeProblems_eq_nil.mp (hAccepts.attributes_inOrder hIn)
  have hIn : (⟨"", label⟩, value) ∈ element.attributes := mem_of_lookup_eq_some hValue
  obtain ⟨other, hOther, hFits⟩ := hKnown _ hIn rfl
  have hSame : ruleFor? form.attributes ⟨"", label⟩ = some rule := hRule
  rw [hSame] at hOther
  cases hOther
  exact hFits

/-- An attribute that must be there is there. -/
theorem Accepts.exists_attribute (hAccepts : edition.Accepts form element)
    (hRule : rule ∈ form.attributes) (hRequired : rule.isRequired = true) :
    ∃ value, element.attribute? ⟨"", rule.label⟩ = some value := by
  obtain ⟨_, hThere⟩ := attributeProblems_eq_nil.mp (hAccepts.attributes_inOrder hRule)
  exact Option.isSome_iff_exists.mp (hThere rule hRule hRequired)

end Edition

end SdkFeed.Schema
