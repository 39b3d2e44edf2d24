import SdkFeed.Proofs.Load.Agreement
import SdkFeed.Proofs.Load.Length
import SdkFeed.Proofs.Package.Gate
import SdkFeed.Proofs.Xml.Equality

/-! Loads of untrusted sources. Nothing is ever salvaged for them, and whatever is fetched, the packages
that are read are add-ons and extras. -/
namespace SdkFeed.Load

open SdkFeed.Package (Index)

variable {σ : Type} {services : Services σ} {request : Request} {run after : Run σ}
  {state next last : State}

/-- What a load has gained: whether a document was salvaged, and the packages. -/
def Run.gain (run : Run σ) : Bool × Option (List Package) :=
  (run.isSalvaged, run.packages)

@[simp] theorem Run.gain_softFail (run : Run σ) (kind : ErrorKind) (message : String) :
    (run.softFail kind message).gain = run.gain := by
  rw [softFail]
  split <;> rfl

@[simp] theorem Run.gain_reportAlternate (run : Run σ) : run.reportAlternate.gain = run.gain := by
  rw [reportAlternate]
  split <;> rfl

@[simp] theorem Run.gain_retry (run : Run σ) (services : Services σ) (request : Request) :
    (run.retry services request).1.gain = run.gain := by
  simp only [retry, fetch]
  split
  · rename_i cause lost hFetch
    have hGain := congrArg Run.gain (Prod.mk.inj hFetch).2.symm
    exact hGain
  · rename_i bytes fetched hFetch
    have hGain := congrArg Run.gain (Prod.mk.inj hFetch).2.symm
    exact hGain

/-- Only salvaging and reading packages gain anything. -/
theorem step_gain (services : Services σ) (request : Request) (run : Run σ)
    (hProbing : state ≠ .probing) (hParsing : state ≠ .parsing) :
    (step services request run state).1.gain = run.gain := by
  cases state with
  | fetching =>
      simp only [step, onFetching, Run.fetch]
      split
      · rename_i bytes fetched hFetch
        have hGain := congrArg Run.gain (Prod.mk.inj hFetch).2.symm
        exact hGain
      · rename_i cause lost hFetch
        have hGain := congrArg Run.gain (Prod.mk.inj hFetch).2.symm
        split <;> exact hGain
  | fetched =>
      rw [step]
      split <;> rfl
  | detectingVersion =>
      rw [step, onDetecting]
      split
      · rfl
      · rfl
      · split
        · rfl
        · split <;> rfl
  | noVersion =>
      rw [step, onNoVersion]
      split <;> simp
  | validating =>
      rw [step, onValidating]
      dsimp only
      split
      · rfl
      · split <;> rfl
  | validationFailed =>
      rw [step, onInvalid]
      split
      · exact Run.gain_retry _ _ _
      · rfl
  | validated =>
      rw [step, onValid]
      split
      · rfl
      · exact Run.gain_softFail _ _ _
      · exact Run.gain_reportAlternate _
  | probed => exact Run.gain_reportAlternate run
  | probing => exact absurd rfl hProbing
  | parsing => exact absurd rfl hParsing
  | start | fetchFailed | versionSupported | versionTooNew | validatorMissing | probeFailed
  | parsed | failed => rfl

/-- A load that has kept to what untrusted sources can publish. -/
structure Run.IsGated (run : Run σ) : Prop where
  isSalvaged : run.isSalvaged = false
  trace : .probed ∉ run.trace
  packages : ∀ packages ∈ run.packages, ∀ package ∈ packages,
    package.kind = .addon ∨ package.kind = .extra

theorem Run.isGated_start (request : Request) (forceOpen : Bool) (services : σ) :
    (start request forceOpen services).IsGated :=
  ⟨rfl, List.not_mem_nil, nofun⟩

theorem Run.IsGated.of_gain (hGated : run.IsGated) (hGain : after.gain = run.gain)
    (hTrace : after.trace = run.trace) : after.IsGated := by
  obtain ⟨hSalvaged, hPackages⟩ := Prod.mk.inj hGain
  exact ⟨hSalvaged.trans hGated.isSalvaged, hTrace ▸ hGated.trace, hPackages ▸ hGated.packages⟩

theorem giveUp_gated (hGated : run.IsGated) (last : State) : (giveUp request run last).1.IsGated := by
  rw [giveUp]
  split
  · exact hGated
  · exact hGated.of_gain (Run.gain_softFail _ _ _) (Run.softFail_trace _ _ _)

theorem finish_gated (hGated : run.IsGated) (last : State) : (finish request run last).1.IsGated := by
  refine hGated.of_gain ?_ (finish_trace request run last)
  obtain ⟨reports, hSettled⟩ := settleFailure_eq request run
  simp only [finish, hSettled]
  split <;> rfl

theorem Transition.eq_probing (hTransition : Transition request run after state .probed) :
    state = .probing := by
  cases hTransition with
  | fetch hNext => exact absurd hNext (by decide)
  | stay hNext =>
      cases state with
      | probing => rfl
      | _ => exact absurd hNext (by decide)

section Untrusted

variable (hKind : request.source.kind = .addon)

include hKind

theorem onProbing_untrusted (run : Run σ) : onProbing request run = (run, .ok .probeFailed) := by
  rw [onProbing, hKind]
  rfl

theorem onParsing_gated (hGated : run.IsGated) : (onParsing request run).1.IsGated := by
  unfold onParsing
  extract_lets told
  have hTold : told.IsGated := hGated.of_gain rfl rfl
  clear_value told
  split
  · exact hTold
  · extract_lets index read
    have hRead : read.IsGated := hTold.of_gain rfl rfl
    clear_value read
    split
    · exact hRead.of_gain (Run.gain_softFail _ _ _) (Run.softFail_trace _ _ _)
    · rename_i described _ packages hPackages
      have hDescribed : described = read := if_neg (by simp [hRead.isSalvaged])
      refine ⟨?_, ?_, ?_⟩
      · exact hDescribed ▸ hRead.isSalvaged
      · exact hDescribed ▸ hRead.trace
      · intro listed hListed package hPackage
        obtain rfl := Option.some.inj hListed
        simp only [index, hKind] at hPackages
        exact Package.ofDocument_addon_kind hPackages hPackage

/-- Every step keeps a load of an untrusted source to what it can publish. -/
theorem step_gated (hGated : run.IsGated) (services : Services σ) (state : State) :
    (step services request run state).1.IsGated := by
  by_cases hParsing : state = .parsing
  · subst hParsing
    exact onParsing_gated hKind hGated
  by_cases hProbing : state = .probing
  · subst hProbing
    show (onProbing request run).1.IsGated
    rw [onProbing_untrusted hKind]
    exact hGated
  · exact hGated.of_gain (step_gain services request run hProbing hParsing)
      (step_trace services request run state)

theorem step_ne_probed (hOpen : state.isFinal = false)
    (hStep : step services request run state = (after, .ok next)) : next ≠ .probed := by
  rintro rfl
  have hState := (step_transition hOpen hStep).eq_probing
  subst hState
  rw [step, onProbing_untrusted hKind] at hStep
  cases hStep

/-- A load of an untrusted source keeps to it for any number of steps. -/
theorem drive_gated (hGated : run.IsGated) (services : Services σ) (steps : Nat) (state : State) :
    (drive services request steps state run).1.IsGated := by
  induction steps generalizing state run with
  | zero => exact hGated
  | succ steps ih =>
      rw [drive]
      split
      · exact hGated
      · rename_i hClosed
        have hStepped := step_gated hKind hGated services state
        split
        · rename_i crashed crash hStep
          rw [hStep] at hStepped
          exact hStepped
        · rename_i middle next hStep
          -- Entering a state adds it to the trace, so the step must not have come to a salvaged document.
          rw [hStep] at hStepped
          have hNext := step_ne_probed hKind (by simpa using hClosed) hStep
          have hTrace : .probed ∉ (middle.enter next).trace := by
            simp [Run.enter, hStepped.trace, hNext.symm]
          have hEntered : (middle.enter next).IsGated :=
            ⟨hStepped.isSalvaged, hTrace, hStepped.packages⟩
          exact ih hEntered next

theorem load_gated (services : Services σ) (forceOpen : Bool) (state : σ) :
    (load services request forceOpen state).1.IsGated ∧
      ∀ outcome, (load services request forceOpen state).2 = .ok outcome →
        outcome.needsUpgrade = false ∧ ∀ packages ∈ outcome.packages, ∀ package ∈ packages,
          package.kind = .addon ∨ package.kind = .extra := by
  have hGated := drive_gated hKind (Run.isGated_start request forceOpen state) services stepLimit
    .start
  rcases hDrive : drive services request stepLimit .start (.start request forceOpen state) with
    ⟨run, ending⟩
  rw [hDrive] at hGated
  cases ending with
  | error crash =>
      simp only [load, loadWithin, hDrive]
      refine ⟨hGated, ?_⟩
      intro outcome hOutcome
      cases hOutcome
  | ok last =>
      have hEnded : (giveUp request _ last).1.IsGated := giveUp_gated hGated last
      simp only [load, loadWithin, hDrive]
      refine ⟨finish_gated hEnded _, ?_⟩
      intro outcome hOutcome
      rw [(finish_eq request _ _).2] at hOutcome
      obtain rfl := Except.ok.inj hOutcome
      refine ⟨hEnded.isSalvaged, ?_⟩
      intro packages hPackages
      simp only [Run.closing] at hPackages
      split at hPackages
      · exact hEnded.packages packages hPackages
      · cases hPackages

end Untrusted

/-- Untrusted sources can publish add-ons and extras only. Their documents are read alike, with the same
reports and warnings, if the same can be seen of them: what is put in, taken out or spoiled among the
other elements changes nothing. And whatever is fetched for such a source, nothing is salvaged and no
other package comes of it. -/
theorem untrusted_sources_gated :
    (∀ element space licenses sourceUrl package,
      Package.ofElement .addon space licenses sourceUrl element = .ok (some package) →
        package.kind = .addon ∨ package.kind = .extra) ∧
    (∀ root space sourceUrl, ∀ packages ∈ (Index.ofDocument .addon space sourceUrl root).packages,
      ∀ package ∈ packages, package.kind = .addon ∨ package.kind = .extra) ∧
    (∀ root other space sourceUrl, root.name = other.name →
      Package.visible space root = Package.visible space other →
        Index.ofDocument .addon space sourceUrl root =
          Index.ofDocument .addon space sourceUrl other) ∧
    ∀ (σ : Type) (services : Services σ) (request : Request) (forceOpen : Bool) (state : σ),
      request.source.kind = .addon →
        (load services request forceOpen state).1.IsGated ∧
        ∀ outcome, (load services request forceOpen state).2 = .ok outcome →
          outcome.needsUpgrade = false ∧ ∀ packages ∈ outcome.packages, ∀ package ∈ packages,
            package.kind = .addon ∨ package.kind = .extra := by
  refine ⟨?_, ?_, ?_, ?_⟩
  · intro element space licenses sourceUrl package hRead
    exact Package.kindOf?_addon (Package.ofElement_kind hRead)
  · intro root space sourceUrl packages hListed package hPackage
    exact Package.ofDocument_addon_kind hListed hPackage
  · intro root other space sourceUrl hName hVisible
    exact Package.ofDocument_addon_congr hName hVisible sourceUrl
  · intro σ services request forceOpen state hKind
    exact load_gated hKind services forceOpen state

/-- An index of an add-on site with an extra, on a line, behind some other elements. -/
def extraIndex (line : Nat) (others : List (Xml.Item Xml.Tree)) : Xml.Tree :=
  let space := Feed.Family.addon.latestSpace
  let field (label content : String) : Xml.Item Xml.Tree :=
    .child (.mk ⟨space, label⟩ [] line [.text content])
  .mk ⟨space, "sdk-addon"⟩ [] 1
    (others ++ [.child (.mk ⟨space, "extra"⟩ [] line [field "path" "p", field "revision" "1"])])

/-- A platform without any of its fields, and an unknown element. -/
def hiddenItems : List (Xml.Item Xml.Tree) :=
  let space := Feed.Family.addon.latestSpace
  [.child (.mk ⟨space, "platform"⟩ [] 2 [.text "spoiled"]), .child (.mk ⟨"", "extra"⟩ [] 3 [])]

/-- A load of an add-on site that answers with nothing. -/
theorem extraIndex_gated :
    (extraIndex 1 []).name = (extraIndex 4 hiddenItems).name ∧
    Package.visible Feed.Family.addon.latestSpace (extraIndex 1 []) =
      Package.visible Feed.Family.addon.latestSpace (extraIndex 4 hiddenItems) ∧
    Index.ofDocument .addon Feed.Family.addon.latestSpace "u" (extraIndex 1 []) =
      Index.ofDocument .addon Feed.Family.addon.latestSpace "u" (extraIndex 4 hiddenItems) ∧
    (load (.withValidator serving .standard) ⟨.ofUrl "u" none .addon, .tools⟩ false []).1.IsGated := by
  have hName : (extraIndex 1 []).name = (extraIndex 4 hiddenItems).name := rfl
  have hVisible : Package.visible Feed.Family.addon.latestSpace (extraIndex 1 []) =
      Package.visible Feed.Family.addon.latestSpace (extraIndex 4 hiddenItems) := by
    decide +kernel
  obtain ⟨_, _, hSame, hLoads⟩ := untrusted_sources_gated
  exact ⟨hName, hVisible, hSame _ _ _ "u" hName hVisible,
    (hLoads _ (.withValidator serving .standard) ⟨.ofUrl "u" none .addon, .tools⟩ false [] rfl).1⟩

end SdkFeed.Load
