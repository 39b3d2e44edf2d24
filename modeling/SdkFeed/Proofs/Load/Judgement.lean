import SdkFeed.Proofs.Feed.Detection
import SdkFeed.Proofs.Load.Attempt

/-! What is known of a document when an attempt comes to something: one case for each answer, with
the answers of all readers of the document on the way to it. -/
namespace SdkFeed.Feed

theorem Family.one_le_latest (kind : Kind) : 1 ≤ kind.family.latest := by
  cases kind <;> decide

/-- A version is zero, understood, or newer. -/
theorem Family.eq_zero_of_not_supports {kind : Kind} {version : Nat}
    (hSupports : kind.family.supports version = false) (hNewer : ¬kind.family.latest < version) :
    version = 0 := by
  have hLatest := one_le_latest kind
  simp only [supports, Bool.and_eq_false_iff, decide_eq_false_iff_not] at hSupports
  omega

theorem Family.ne_zero_of_supports {kind : Kind} {version : Nat}
    (hSupports : kind.family.supports version = true) : version ≠ 0 := by
  simp only [supports, Bool.and_eq_true, decide_eq_true_eq] at hSupports
  omega

theorem Family.ne_zero_of_newer {kind : Kind} {version : Nat}
    (hNewer : kind.family.latest < version) : version ≠ 0 := by
  have hLatest := one_le_latest kind
  omega

end SdkFeed.Feed

namespace SdkFeed.Load

open SdkFeed.Feed (Kind)

/-- What the readers of a document say when it comes to an attempt. -/
inductive Judged (validator : Schema.Validator) (kind : Kind) (url : String) (bytes : List UInt8) :
    Attempt → Prop where
  | unrecognized (hVersion : Feed.detectVersion kind bytes = .ok 0) :
      Judged validator kind url bytes .unrecognized
  | invalid {version : Nat} {validation : Schema.Validation}
      (hVersion : Feed.detectVersion kind bytes = .ok version)
      (hSupports : kind.family.supports version = true)
      (hAnswer : validator.validate ⟨kind, version⟩ url bytes = .ok validation)
      (hValid : validation.isValid = false) (hUnavailable : validation.isUnavailable = false) :
      Judged validator kind url bytes (.invalid version validation.error)
  | unchecked {version : Nat} {validation : Schema.Validation}
      (hVersion : Feed.detectVersion kind bytes = .ok version)
      (hSupports : kind.family.supports version = true)
      (hAnswer : validator.validate ⟨kind, version⟩ url bytes = .ok validation)
      (hValid : validation.isValid = false) (hUnavailable : validation.isUnavailable = true) :
      Judged validator kind url bytes (.unchecked version validation.error)
  | unreadable {version : Nat} {validation : Schema.Validation} {error : Xml.ReadError}
      (hVersion : Feed.detectVersion kind bytes = .ok version)
      (hSupports : kind.family.supports version = true)
      (hAnswer : validator.validate ⟨kind, version⟩ url bytes = .ok validation)
      (hValid : validation.isValid = true) (hRead : Xml.read bytes = .error error) :
      Judged validator kind url bytes (.unreadable version)
  | read {version : Nat} {validation : Schema.Validation} {root : Xml.Tree}
      (hVersion : Feed.detectVersion kind bytes = .ok version)
      (hSupports : kind.family.supports version = true)
      (hAnswer : validator.validate ⟨kind, version⟩ url bytes = .ok validation)
      (hValid : validation.isValid = true) (hRead : Xml.read bytes = .ok root) :
      Judged validator kind url bytes
        (.usable version false (listing kind (kind.family.space version) url root))
  | tooNew {version : Nat} (hVersion : Feed.detectVersion kind bytes = .ok version)
      (hSupports : kind.family.supports version = false) (hNewer : kind.family.latest < version)
      (hSalvage : Package.Salvage.ofBytes kind bytes = .ok none) :
      Judged validator kind url bytes (.tooNew version)
  | salvaged {version : Nat} {root : Xml.Tree}
      (hVersion : Feed.detectVersion kind bytes = .ok version)
      (hSupports : kind.family.supports version = false) (hNewer : kind.family.latest < version)
      (hSalvage : Package.Salvage.ofBytes kind bytes = .ok (some root)) :
      Judged validator kind url bytes
        (.usable version true (listing kind kind.family.latestSpace url root))

namespace Attempt

variable {validator : Schema.Validator} {kind : Kind} {url : String} {bytes : List UInt8}
  {attempt : Attempt}

theorem ofSupported_judged {version : Nat}
    (hVersion : Feed.detectVersion kind bytes = .ok version)
    (hSupports : kind.family.supports version = true)
    (hAttempt : ofSupported validator kind version url bytes = .ok attempt) :
    Judged validator kind url bytes attempt := by
  rw [ofSupported] at hAttempt
  split at hAttempt
  · cases hAttempt
  · rename_i validation hAnswer
    split at hAttempt
    · rename_i hValid
      split at hAttempt
      · rename_i root hRead
        obtain rfl := Except.ok.inj hAttempt
        exact .read hVersion hSupports hAnswer hValid hRead
      · rename_i error hRead
        obtain rfl := Except.ok.inj hAttempt
        exact .unreadable hVersion hSupports hAnswer hValid hRead
    · rename_i hInvalid
      have hValid : validation.isValid = false := by simpa using hInvalid
      split at hAttempt
      · rename_i hUnavailable
        obtain rfl := Except.ok.inj hAttempt
        exact .unchecked hVersion hSupports hAnswer hValid hUnavailable
      · rename_i hAvailable
        obtain rfl := Except.ok.inj hAttempt
        exact .invalid hVersion hSupports hAnswer hValid (by simpa using hAvailable)

theorem ofNewer_judged {version : Nat} (hVersion : Feed.detectVersion kind bytes = .ok version)
    (hSupports : kind.family.supports version = false) (hNewer : kind.family.latest < version) :
    Judged validator kind url bytes (ofNewer kind version url bytes) := by
  obtain ⟨answer, hSalvage⟩ :=
    Feed.salvage_of_version hVersion (Feed.Family.ne_zero_of_newer hNewer)
  rw [ofNewer, hSalvage]
  cases answer with
  | none => exact .tooNew hVersion hSupports hNewer hSalvage
  | some root => exact .salvaged hVersion hSupports hNewer hSalvage

/-- The readers of a document agree with what it comes to. -/
theorem ofBytes_judged (hAttempt : ofBytes validator kind url bytes = .ok attempt) :
    Judged validator kind url bytes attempt := by
  rw [ofBytes] at hAttempt
  split at hAttempt
  · cases hAttempt
  · rename_i error hOther hError
    obtain ⟨name, rfl, _⟩ := Feed.detectVersion_eq_error.mp hError
    exact absurd rfl (hOther (.unknown name))
  · rename_i version hVersion
    split at hAttempt
    · rename_i hSupports
      exact ofSupported_judged hVersion hSupports hAttempt
    · rename_i hUnknown
      have hSupports : kind.family.supports version = false := by simpa using hUnknown
      split at hAttempt
      · rename_i hNewer
        obtain rfl := Except.ok.inj hAttempt
        exact ofNewer_judged hVersion hSupports hNewer
      · rename_i hNewer
        obtain rfl := Except.ok.inj hAttempt
        obtain rfl := Feed.Family.eq_zero_of_not_supports hSupports hNewer
        exact .unrecognized hVersion

/-- No attempt comes to anything at a document in an unknown encoding, or one whose check breaks
down. -/
theorem ofBytes_eq_error {crash : Crash} (hAttempt : ofBytes validator kind url bytes = .error crash) :
    (∃ fault, crash = .encoding fault ∧
      Feed.detectVersion kind bytes = .error (.encoding fault)) ∨
    ∃ version breakdown, crash = .breakdown ∧ Feed.detectVersion kind bytes = .ok version ∧
      kind.family.supports version = true ∧
      validator.validate ⟨kind, version⟩ url bytes = .error breakdown := by
  rw [ofBytes] at hAttempt
  split at hAttempt
  · rename_i fault hError
    exact Or.inl ⟨fault, (Except.error.inj hAttempt).symm, hError⟩
  · cases hAttempt
  · rename_i version hVersion
    split at hAttempt
    · rename_i hSupports
      rw [ofSupported] at hAttempt
      split at hAttempt
      · rename_i breakdown hAnswer
        exact Or.inr ⟨version, breakdown, (Except.error.inj hAttempt).symm, hVersion, hSupports,
          hAnswer⟩
      · split at hAttempt
        · split at hAttempt <;> cases hAttempt
        · split at hAttempt <;> cases hAttempt
    · split at hAttempt <;> cases hAttempt

end Attempt

end SdkFeed.Load
