import SdkFeed.Fetch.Web

/-! What a user is told of a fetch that failed. The class of a cause decides the class of the failure,
whether the cause is met as it is or wrapped in an address that could not be opened; and the reason
has words unless an error without words is wrapped. -/
namespace SdkFeed.Text

variable {front back : String}

theorem append_ne_empty (hFront : front ≠ "") : front ++ back ≠ "" :=
  fun hNone => hFront (String.append_eq_empty_iff.mp hNone).1

theorem append_ne_self (hFront : front ≠ "") : front ++ back ≠ back := by
  intro hSame
  have hLength := congrArg String.length hSame
  rw [String.length_append] at hLength
  have hNone : front.length = 0 := by omega
  exact hFront (String.length_eq_zero_iff.mp hNone)

end SdkFeed.Text

namespace SdkFeed.Fetch

open SdkFeed.Text

namespace ErrorClass

/-- The class that a class is derived from. -/
def base? : ErrorClass → Option ErrorClass
  | exception => none
  | system | protocol | value | runtime => some exception
  | certificate => some secureLayer
  | derived base _ _ => some base
  | _ => some system

/-- A class is another one, or is derived from it over any number of classes. -/
inductive IsA : ErrorClass → ErrorClass → Prop where
  | refl (kind : ErrorClass) : IsA kind kind
  | base {kind above other : ErrorClass} (hBase : kind.base? = some above) (hIsA : IsA above other) :
      IsA kind other

variable {kind above : ErrorClass}

theorem isMissing_base (hBase : kind.base? = some above) (hMissing : above.isMissing = true) :
    kind.isMissing = true := by
  cases kind <;> cases hBase <;> first | exact hMissing | cases hMissing

theorem isSecure_base (hBase : kind.base? = some above) (hSecure : above.isSecure = true) :
    kind.isSecure = true := by
  cases kind <;> cases hBase <;> first | exact hSecure | rfl

theorem isMissing_iff : kind.isMissing = true ↔ kind.IsA .fileNotFound := by
  constructor
  · intro hMissing
    induction kind with
    | fileNotFound => exact .refl _
    | derived base module name ih => exact .base rfl (ih hMissing)
    | _ => cases hMissing
  · generalize hTop : fileNotFound = top
    intro hIsA
    induction hIsA with
    | refl kind => exact hTop ▸ rfl
    | base hBase _ ih => exact isMissing_base hBase (ih hTop)

theorem isSecure_iff : kind.isSecure = true ↔ kind.IsA .secureLayer := by
  constructor
  · intro hSecure
    induction kind with
    | secureLayer => exact .refl _
    | certificate => exact .base rfl (.refl _)
    | derived base module name ih => exact .base rfl (ih hSecure)
    | _ => cases hSecure
  · generalize hTop : secureLayer = top
    intro hIsA
    induction hIsA with
    | refl kind => exact hTop ▸ rfl
    | base hBase _ ih => exact isSecure_base hBase (ih hTop)

/-- No class is derived both from missing files and from the secure layer. -/
theorem not_isSecure_of_isMissing (hMissing : kind.isMissing = true) : kind.isSecure = false := by
  induction kind with
  | derived base module name ih => exact ih hMissing
  | fileNotFound => rfl
  | _ => cases hMissing

end ErrorClass

namespace Cause

variable {cause : Cause} {kind : ErrorClass} {detail : Detail}

/-- A cause is an error, or the error is directly wrapped in it. -/
def Tells (cause : Cause) (kind : ErrorClass) (detail : Detail) : Prop :=
  cause = .plain kind detail ∨ cause = .wrapped (.plain kind detail)

/-- A cause says that the address does not exist: by the status of the answer, or through the class
of an error. -/
def IsMissing (cause : Cause) : Prop :=
  (∃ code message, cause = .status code message ∧ (code = 404 ∨ code = 410)) ∨
    ∃ kind detail, cause.Tells kind detail ∧ kind.IsA .fileNotFound

/-- A cause says that the secure connection failed, through the class of an error. -/
def IsFromSecureLayer (cause : Cause) : Prop :=
  ∃ kind detail, cause.Tells kind detail ∧ kind.IsA .secureLayer

/-- A cause wraps an error that has no words of its own, and says nothing more about it. -/
def IsSilent (cause : Cause) : Prop :=
  ∃ kind detail, cause = .wrapped (.plain kind detail) ∧ plainText kind detail = "" ∧
    ¬kind.IsA .fileNotFound

/-- A cause is of the class of addresses that could not be opened. -/
def IsUnopened : Cause → Prop
  | status .. | unopened _ | wrapped _ => True
  | failure _ | plain .. => False

theorem isNotFound_iff : cause.isNotFound = true ↔ cause.IsMissing := by
  cases cause with
  | plain kind detail => simp [isNotFound, IsMissing, Tells, ErrorClass.isMissing_iff]
  | wrapped inner => cases inner <;> simp [isNotFound, IsMissing, Tells, ErrorClass.isMissing_iff]
  | _ => simp [isNotFound, IsMissing, Tells]

theorem isInsecure_iff : cause.isInsecure = true ↔ cause.IsFromSecureLayer := by
  cases cause with
  | plain kind detail => simp [isInsecure, IsFromSecureLayer, Tells, ErrorClass.isSecure_iff]
  | wrapped inner => cases inner <;> simp [isInsecure, IsFromSecureLayer, Tells, ErrorClass.isSecure_iff]
  | _ => simp [isInsecure, IsFromSecureLayer, Tells]

theorem not_isInsecure_of_isNotFound (hMissing : cause.isNotFound = true) :
    cause.isInsecure = false := by
  cases cause with
  | plain kind detail => exact ErrorClass.not_isSecure_of_isMissing hMissing
  | wrapped inner =>
      cases inner with
      | plain kind detail => exact ErrorClass.not_isSecure_of_isMissing hMissing
      | _ => rfl
  | _ => rfl

/-- Only plain errors are without words. -/
theorem text_ne_empty (hOther : ∀ kind detail, cause ≠ .plain kind detail) : cause.text ≠ "" := by
  cases cause with
  | failure told => exact append_ne_empty (append_ne_empty (append_ne_empty (by decide)))
  | status code message => exact append_ne_empty (append_ne_empty (append_ne_empty (by decide)))
  | unopened reason => exact append_ne_empty (append_ne_empty (by decide))
  | wrapped inner => exact append_ne_empty (append_ne_empty (by decide))
  | plain kind detail => exact absurd rfl (hOther kind detail)

/-- The words of a cause are never lost: only an error without words that is wrapped gives a reason
without words. -/
theorem describe_eq_empty :
    cause.describe = "" ↔
      ∃ kind detail, cause = .wrapped (.plain kind detail) ∧ plainText kind detail = "" := by
  constructor
  · intro hNone
    cases cause with
    | failure told => exact absurd hNone (text_ne_empty (by simp))
    | status code message => exact absurd hNone (text_ne_empty (by simp))
    | unopened reason =>
        rw [describe] at hNone
        split at hNone
        · exact absurd hNone (text_ne_empty (by simp))
        · rename_i hReason
          exact absurd (by simp [hNone]) hReason
    | plain kind detail =>
        rw [describe] at hNone
        split at hNone
        · exact absurd hNone (append_ne_empty (append_ne_empty (append_ne_empty
            (append_ne_empty (by decide)))))
        · rename_i hWords
          exact absurd (by simp [hNone]) hWords
    | wrapped inner =>
        cases inner with
        | plain kind detail => exact ⟨kind, detail, rfl, hNone⟩
        | _ => exact absurd hNone (text_ne_empty (by simp))
  · rintro ⟨kind, detail, rfl, hNone⟩
    exact hNone

/-- An error is described in the same way when it is wrapped, if it has words. -/
theorem describe_wrapped_plain :
    (wrapped (plain kind detail)).describe = (plain kind detail).describe ↔
      plainText kind detail ≠ "" := by
  constructor
  · intro hSame hNone
    have hLost := describe_eq_empty.mpr ⟨kind, detail, rfl, hNone⟩
    obtain ⟨_, _, hOther, _⟩ := describe_eq_empty.mp (hSame.symm.trans hLost)
    cases hOther
  · intro hWords
    have hFilled : ¬(plainText kind detail).isEmpty := by simpa using hWords
    exact (if_neg hFilled).symm

end Cause

/-- What is told of a cause that is not classified yet. The failure is for the address that was
fetched, exactly one class is right for it, and its reason has words unless the cause is silent. -/
structure IsTold (url : String) (cause : Cause) (failure : Failure) : Prop where
  url_eq : failure.url = url
  notFound : failure = .notFound url ↔ cause.IsMissing
  insecure : (∃ reason, failure = .insecure url reason) ↔ cause.IsFromSecureLayer
  broken : (∃ reason, failure = .broken url reason) ↔
    ¬cause.IsMissing ∧ ¬cause.IsFromSecureLayer
  reason : failure.reason = "" ↔ cause.IsSilent

variable {url : String} {cause error : Cause} {kind : ErrorClass} {detail : Detail}

theorem classify_of_isNotFound (hMissing : cause.isNotFound = true) :
    classify url cause = .notFound url := by
  cases cause with
  | failure told => cases hMissing
  | _ => exact if_pos hMissing

theorem classify_of_isInsecure (hFound : cause.isNotFound = false)
    (hSecure : cause.isInsecure = true) : classify url cause = .insecure url cause.describe := by
  cases cause with
  | failure told => cases hSecure
  | _ => rw [classify, if_neg (by simp [hFound]), if_pos hSecure]; simp

theorem classify_of_other (hNew : ∀ failure, cause ≠ .failure failure)
    (hFound : cause.isNotFound = false) (hOpen : cause.isInsecure = false) :
    classify url cause = .broken url cause.describe := by
  cases cause with
  | failure told => exact absurd rfl (hNew told)
  | _ => rw [classify, if_neg (by simp [hFound]), if_neg (by simp [hOpen])]; simp

theorem isSilent_iff (hFound : cause.isNotFound = false) :
    cause.IsSilent ↔ cause.describe = "" := by
  rw [Cause.describe_eq_empty]
  constructor
  · rintro ⟨kind, detail, hCause, hNone, _⟩
    exact ⟨kind, detail, hCause, hNone⟩
  · rintro ⟨kind, detail, rfl, hNone⟩
    refine ⟨kind, detail, rfl, hNone, ?_⟩
    rw [← ErrorClass.isMissing_iff]
    simpa [Cause.isNotFound] using hFound

theorem not_isSilent (hMissing : cause.isNotFound = true) : ¬cause.IsSilent := by
  rintro ⟨kind, detail, rfl, _, hOther⟩
  exact hOther (ErrorClass.isMissing_iff.mp hMissing)

theorem classify_isTold (hNew : ∀ failure, cause ≠ .failure failure) :
    IsTold url cause (classify url cause) := by
  have hMissing := cause.isNotFound_iff
  have hSecure := cause.isInsecure_iff
  cases hNotFound : cause.isNotFound with
  | true =>
      have hSilent := not_isSilent hNotFound
      rw [classify_of_isNotFound hNotFound]
      rw [hNotFound] at hMissing
      rw [Cause.not_isInsecure_of_isNotFound hNotFound] at hSecure
      constructor <;> simp [← hMissing, ← hSecure, hSilent, Failure.url, Failure.reason]
  | false =>
      have hSilent := isSilent_iff hNotFound
      rw [hNotFound] at hMissing
      cases hInsecure : cause.isInsecure with
      | true =>
          rw [classify_of_isInsecure hNotFound hInsecure]
          rw [hInsecure] at hSecure
          constructor <;> simp [← hMissing, ← hSecure, hSilent, Failure.url, Failure.reason]
      | false =>
          rw [classify_of_other hNew hNotFound hInsecure]
          rw [hInsecure] at hSecure
          constructor <;> simp [← hMissing, ← hSecure, hSilent, Failure.url, Failure.reason]

theorem ofCause_eq_classified {failure : Failure} {met : Cause}
    (hClassified : FetchError.ofCause url met = .classified failure cause) :
    met = cause ∧ cause.isExpected = true ∧ failure = classify url cause := by
  rw [FetchError.ofCause] at hClassified
  split at hClassified
  · rename_i hExpected
    cases hClassified
    exact ⟨rfl, hExpected, rfl⟩
  · cases hClassified

/-- Whatever a fetch reports as classified is told of its cause. -/
theorem fetch_isTold {settings : Settings} {web : Web} {failure : Failure} {sent : List Sent}
    (hFetch : fetch settings web url = (.error (.classified failure cause), sent)) :
    IsTold url cause failure := by
  have hCause : ∃ met, FetchError.ofCause url met = .classified failure cause := by
    rw [fetch] at hFetch
    split at hFetch
    · rename_i met _
      exact ⟨met, Except.error.inj (Prod.mk.inj hFetch).1⟩
    · dsimp only at hFetch
      split at hFetch
      · cases hFetch
      · rename_i met _
        exact ⟨met, Except.error.inj (Prod.mk.inj hFetch).1⟩
  obtain ⟨met, hMet⟩ := hCause
  obtain ⟨rfl, hExpected, rfl⟩ := ofCause_eq_classified hMet
  refine classify_isTold fun failure hFailure => ?_
  subst hFailure
  cases hExpected

section Wrapping

/-- An error is classified as missing, as insecure or as neither in the same way when it is wrapped. -/
theorem classify_wrapped (url : String) (kind : ErrorClass) (detail : Detail) :
    kind.isMissing = true ∧ classify url (.wrapped (.plain kind detail)) = .notFound url ∧
        classify url (.plain kind detail) = .notFound url ∨
      kind.isMissing = false ∧ ∃ told, (told = Failure.insecure url ∨ told = Failure.broken url) ∧
        classify url (.wrapped (.plain kind detail)) =
          told (Cause.wrapped (.plain kind detail)).describe ∧
        classify url (.plain kind detail) = told (Cause.plain kind detail).describe := by
  cases hMissing : kind.isMissing with
  | true => exact .inl ⟨rfl, classify_of_isNotFound hMissing, classify_of_isNotFound hMissing⟩
  | false =>
      refine .inr ⟨rfl, ?_⟩
      cases hSecure : kind.isSecure with
      | true =>
          exact ⟨_, .inl rfl, classify_of_isInsecure hMissing hSecure,
            classify_of_isInsecure hMissing hSecure⟩
      | false =>
          exact ⟨_, .inr rfl, classify_of_other (by simp) hMissing hSecure,
            classify_of_other (by simp) hMissing hSecure⟩

/-- The class of the failure does not depend on whether the error is wrapped. -/
theorem classify_wrapped_name (url : String) (kind : ErrorClass) (detail : Detail) :
    (classify url (.wrapped (.plain kind detail))).name =
      (classify url (.plain kind detail)).name := by
  obtain ⟨_, hWrapped, hBare⟩ | ⟨_, told, rfl | rfl, hWrapped, hBare⟩ :=
    classify_wrapped url kind detail
  all_goals simp only [hWrapped, hBare, Failure.name]

/-- The reason does not depend on it either, if the error has words or needs none. -/
theorem classify_wrapped_plain (url : String) (kind : ErrorClass) (detail : Detail) :
    classify url (.wrapped (.plain kind detail)) = classify url (.plain kind detail) ↔
      Cause.plainText kind detail ≠ "" ∨ kind.IsA .fileNotFound := by
  rw [← ErrorClass.isMissing_iff, ← Cause.describe_wrapped_plain]
  obtain ⟨hMissing, hWrapped, hBare⟩ | ⟨hMissing, told, rfl | rfl, hWrapped, hBare⟩ :=
    classify_wrapped url kind detail
  all_goals
    rw [hWrapped, hBare]
    simp [hMissing]

/-- A failure that is classified already would be classified anew if it were wrapped: its full words
become the reason, and they are longer than the reason that it had. -/
theorem classify_wrapped_failure (url : String) (failure : Failure) :
    classify url (.wrapped (.failure failure)) ≠ classify url (.failure failure) := by
  intro hSame
  have hTold : classify url (.wrapped (.failure failure)) = .broken url failure.message :=
    classify_of_other (by simp) rfl rfl
  rw [hTold] at hSame
  have hReason : failure.message = failure.reason := congrArg Failure.reason hSame
  exact append_ne_self (append_ne_empty (append_ne_empty (by decide))) hReason

end Wrapping

/-- What a user is told of a fetch that failed. A cause that is not classified yet becomes a failure of
exactly one class, and the reason is without words only if the cause is silent. And an error that is
not of the class of unopened addresses is told in the same class when it is wrapped in one; it is
told in the same words if it has any, or if it says that a file does not exist, which needs none. -/
theorem classify_tells (url : String) {cause error : Cause}
    (hNew : ∀ failure, cause ≠ .failure failure) (hBare : ¬error.IsUnopened) :
    IsTold url cause (classify url cause) ∧
      ((∀ failure, error ≠ .failure failure) →
        (classify url (.wrapped error)).name = (classify url error).name) ∧
      (classify url (.wrapped error) = classify url error ↔
        ∃ kind detail, error = .plain kind detail ∧
          (Cause.plainText kind detail ≠ "" ∨ kind.IsA .fileNotFound)) := by
  refine ⟨classify_isTold hNew, ?_⟩
  cases error with
  | plain kind detail =>
      refine ⟨fun _ => classify_wrapped_name url kind detail, ?_⟩
      rw [classify_wrapped_plain]
      constructor
      · intro hTold
        exact ⟨kind, detail, rfl, hTold⟩
      · rintro ⟨_, _, hError, hTold⟩
        cases hError
        exact hTold
  | failure failure =>
      refine ⟨fun hOther => absurd rfl (hOther failure), ?_⟩
      constructor
      · intro hSame
        exact absurd hSame (classify_wrapped_failure url failure)
      · rintro ⟨_, _, hError, _⟩
        cases hError
  | status code message => exact absurd trivial hBare
  | unopened reason => exact absurd trivial hBare
  | wrapped inner => exact absurd trivial hBare

/-- A server that is busy, and a connection that is refused while an address is opened. -/
theorem refused_connection_told :
    IsTold "https://sdk.test/" (.status 503 "Busy")
        (.broken "https://sdk.test/" "HTTP Error 503: Busy") ∧
      classify "https://sdk.test/" (.wrapped (.plain .connectionRefused (.numbered 111 "Refused"))) =
        classify "https://sdk.test/" (.plain .connectionRefused (.numbered 111 "Refused")) := by
  have hNew : ∀ failure, Cause.status 503 "Busy" ≠ .failure failure := nofun
  have hBare : ¬(Cause.plain .connectionRefused (.numbered 111 "Refused")).IsUnopened := not_false
  obtain ⟨hTold, _, hSame⟩ := classify_tells "https://sdk.test/" hNew hBare
  exact ⟨hTold, hSame.mpr ⟨_, _, rfl, .inl (by decide)⟩⟩

/-- An error of the system without words is named by its class, but not when it is wrapped. -/
theorem wrapped_error_silent :
    classify "https://e.com/x" (.plain .system .nothing) =
        .broken "https://e.com/x" "Unknown (builtins.OSError)" ∧
      classify "https://e.com/x" (.wrapped (.plain .system .nothing)) =
        .broken "https://e.com/x" "" := by
  decide

end SdkFeed.Fetch
