import SdkFeed.Proofs.Schema.Acceptance
import SdkFeed.Schema.Verdict
import SdkFeed.Xml.Read

/-! Valid documents: those of a published edition whose root element the check accepts. Their packages
are read from the tree of another reader, which is assumed to be the tree that was checked. -/
namespace SdkFeed.Schema

open SdkFeed.Xml

namespace Edition

variable {edition : Edition}

/-- The editions that have a schema. -/
def published : List Edition :=
  [⟨.repository, 1⟩, ⟨.repository, 2⟩, ⟨.repository, 3⟩, ⟨.addon, 1⟩, ⟨.addon, 2⟩]

theorem mem_published (hPublished : edition.isPublished = true) : edition ∈ published := by
  obtain ⟨kind, version⟩ := edition
  simp only [isPublished, Feed.Family.supports, Bool.and_eq_true, decide_eq_true_eq] at hPublished
  obtain ⟨hLower, hUpper⟩ := hPublished
  cases kind with
  | repository =>
      change version ≤ 3 at hUpper
      obtain rfl | rfl | rfl : version = 1 ∨ version = 2 ∨ version = 3 := by omega
      all_goals simp [published]
  | addon =>
      change version ≤ 2 at hUpper
      obtain rfl | rfl : version = 1 ∨ version = 2 := by omega
      all_goals simp [published]

/-- Nothing is found in a document just where its root element is the one of the edition and nothing
is found in that. -/
theorem documentFindings_eq_nil {root : Tree} : edition.documentFindings root = [] ↔
    root.name = ⟨edition.space, edition.kind.family.root⟩ ∧ edition.Clears .index root := by
  rw [documentFindings]
  split
  · rename_i hName
    exact (and_iff_right (eq_of_beq hName)).symm
  · rename_i hName
    refine iff_of_false nofun fun hRoot => hName ?_
    rw [hRoot.1]
    exact BEq.rfl

end Edition

theorem Verdict.ofFindings_eq_valid {findings : List Finding}
    (hVerdict : ofFindings findings = .ok .valid) : findings = [] := by
  unfold ofFindings at hVerdict
  split at hVerdict
  · cases hVerdict
  · rename_i hPlain
    cases findings with
    | nil => rfl
    | cons first rest =>
        cases first with
        | violation violation => cases hVerdict
        | reference => exact absurd (by simp) hPlain

/-- The check of a tree against a published edition comes to the verdict that it is valid. -/
def Edition.Validates (edition : Edition) (root : Tree) : Prop :=
  edition.isPublished = true ∧ Verdict.ofFindings (edition.documentFindings root) = .ok .valid

theorem Edition.validates_iff {edition : Edition} {root : Tree} : edition.Validates root ↔
    edition.isPublished = true ∧ root.name = ⟨edition.space, edition.kind.family.root⟩ ∧
      edition.Clears .index root := by
  rw [Validates, ← documentFindings_eq_nil]
  apply and_congr_right
  intro _
  constructor
  · exact Verdict.ofFindings_eq_valid
  · intro hClean
    rw [hClean]
    rfl

/-- The readers of a document agree: the tree that is checked is the one that packages are read
from, but for the prefixes in scope, which only the check has a use for. -/
def ReadersAgree (bytes : List UInt8) : Prop :=
  (Strict.read? bytes).map Element.bare = (Xml.read bytes).toOption

/-- A validator says of a document that it is valid. -/
def Validator.Passes (validator : Validator) (edition : Edition) (url : String)
    (bytes : List UInt8) : Prop :=
  ∃ validation, validator.validate edition url bytes = .ok validation ∧ validation.isValid = true

variable {validator : Validator} {edition : Edition} {url : String} {bytes : List UInt8}

/-- A validator judges the documents of the editions that it can check. -/
theorem Validator.validate_eq : validator.validate edition url bytes =
    if validator.isInstalled && edition.isPublished then
      (edition.judge bytes).map (Validation.ofVerdict edition url)
    else .ok (.unavailable url) := by
  rw [validate, obstacle?]
  cases validator.isInstalled <;> cases edition.isPublished <;> rfl

theorem Validator.validate_standard (hPublished : edition.isPublished = true) :
    standard.validate edition url bytes =
      (edition.judge bytes).map (Validation.ofVerdict edition url) := by
  rw [validate_eq, hPublished]
  rfl

theorem Validator.Passes.judge (hPasses : validator.Passes edition url bytes) :
    edition.isPublished = true ∧ edition.judge bytes = .ok .valid := by
  obtain ⟨validation, hAnswer, hValid⟩ := hPasses
  rw [validate_eq] at hAnswer
  split at hAnswer
  · rename_i hAble
    cases hJudge : edition.judge bytes with
    | error breakdown =>
        rw [hJudge] at hAnswer
        cases hAnswer
    | ok verdict =>
        rw [hJudge] at hAnswer
        cases hAnswer
        cases verdict with
        | valid => exact ⟨(Bool.and_eq_true_iff.mp hAble).2, rfl⟩
        | notWellFormed | invalid => cases hValid
  · cases hAnswer
    cases hValid

/-- The reader of the check takes a valid document, and the check finds nothing in its root element. -/
theorem Validator.Passes.exists_strict (hPasses : validator.Passes edition url bytes) :
    edition ∈ Edition.published ∧ ∃ root, Strict.read? bytes = some root ∧
      root.name = ⟨edition.space, edition.kind.family.root⟩ ∧ edition.Clears .index root := by
  obtain ⟨hPublished, hJudge⟩ := hPasses.judge
  refine ⟨Edition.mem_published hPublished, ?_⟩
  rw [Edition.judge] at hJudge
  cases hStrict : Strict.read? bytes with
  | none =>
      rw [hStrict] at hJudge
      cases hJudge
  | some root =>
      rw [hStrict] at hJudge
      exact ⟨root, rfl, Edition.documentFindings_eq_nil.mp (Verdict.ofFindings_eq_valid hJudge)⟩

/-- A valid document can be read, and the check accepts its root element. -/
theorem Validator.Passes.exists_root (hPasses : validator.Passes edition url bytes)
    (hAgree : ReadersAgree bytes) :
    edition ∈ Edition.published ∧ ∃ root, Xml.read bytes = .ok root ∧
      root.name = ⟨edition.space, edition.kind.family.root⟩ ∧ edition.Accepts .index root := by
  obtain ⟨hPublished, root, hStrict, hName, hClears⟩ := hPasses.exists_strict
  refine ⟨hPublished, root.bare, ?_, ?_, hClears.accepts.of_bare root.bare_bare.symm⟩
  · rw [ReadersAgree, hStrict] at hAgree
    cases hRead : Xml.read bytes with
    | error fault =>
        rw [hRead] at hAgree
        cases hAgree
    | ok other =>
        rw [hRead] at hAgree
        rw [← Option.some.inj hAgree]
  · rw [Element.name_bare, hName]

/-- The check of a document comes upon a reference in element content. -/
def Edition.MeetsReference (edition : Edition) (bytes : List UInt8) : Prop :=
  edition.isPublished = true ∧
    ∃ root, Strict.read? bytes = some root ∧ .reference ∈ edition.documentFindings root

theorem Verdict.ofFindings_eq_error {findings : List Finding} :
    ofFindings findings = .error ⟨⟩ ↔ .reference ∈ findings := by
  unfold ofFindings
  rw [← List.contains_iff_mem]
  cases findings.contains .reference with
  | true => exact iff_of_true rfl rfl
  | false =>
      refine iff_of_false ?_ nofun
      rw [if_neg nofun]
      split <;> exact nofun

theorem Edition.judge_eq_error {edition : Edition} {bytes : List UInt8} :
    edition.judge bytes = .error ⟨⟩ ↔
      ∃ root, Strict.read? bytes = some root ∧ .reference ∈ edition.documentFindings root := by
  rw [judge]
  cases hRead : Strict.read? bytes with
  | none => exact iff_of_false nofun nofun
  | some root => simp only [Verdict.ofFindings_eq_error, Option.some.injEq, exists_eq_left']

/-- A validator that has the means to check a document breaks down at it. -/
def Validator.BreaksDown (validator : Validator) (edition : Edition) (bytes : List UInt8) : Prop :=
  validator.isInstalled = true ∧ edition.MeetsReference bytes

/-- The check breaks down just where it comes upon a reference. -/
theorem Validator.validate_eq_error :
    validator.validate edition url bytes = .error ⟨⟩ ↔ validator.BreaksDown edition bytes := by
  rw [validate_eq, BreaksDown, Edition.MeetsReference, ← Edition.judge_eq_error]
  cases validator.isInstalled with
  | false => exact iff_of_false nofun nofun
  | true =>
      cases edition.isPublished with
      | false => exact iff_of_false nofun nofun
      | true => cases edition.judge bytes with
        | error breakdown => exact iff_of_true rfl ⟨rfl, rfl, rfl⟩
        | ok verdict => exact iff_of_false nofun nofun

/-- A document is valid just where its tree is. -/
theorem Edition.passes_iff_validates {edition : Edition} {root : Tree} {bytes : List UInt8}
    {url : String} (hRead : Strict.read? bytes = some root) :
    Validator.standard.Passes edition url bytes ↔ edition.Validates root := by
  constructor
  · intro hPasses
    obtain ⟨hPublished, hJudge⟩ := hPasses.judge
    rw [judge, hRead] at hJudge
    exact ⟨hPublished, hJudge⟩
  · rintro ⟨hPublished, hVerdict⟩
    refine ⟨.ofVerdict edition url .valid, ?_, rfl⟩
    rw [Validator.validate_standard hPublished, judge, hRead]
    simp only [hVerdict]
    rfl

end SdkFeed.Schema
