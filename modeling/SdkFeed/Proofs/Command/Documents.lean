import SdkFeed.Command.Run
import SdkFeed.Proofs.Load.Specification
import SdkFeed.Proofs.Package.Completeness
import SdkFeed.Proofs.Source.Address

/-! What the commands say of one document. A check of a file and a load of an address that names the
index file accept the same documents, and tell the same version of them. -/
namespace SdkFeed

open SdkFeed.Schema

/-- An ending that no trimming touches is still there after trimming. -/
theorem Text.suffix_trimChars {ending chars : List Char} (hEnding : IsTrimmed ending)
    (hFilled : ending ≠ []) (hEnds : ending <:+ chars) : ending <:+ trimChars chars := by
  obtain ⟨front, rfl⟩ := hEnds
  have hHead : ending.dropWhile isBlank = ending := by
    cases ending with
    | nil => exact absurd rfl hFilled
    | cons c rest => rw [List.dropWhile_cons, hEnding.head c rfl, if_neg nofun]
  have hLeft : ∃ left, (front ++ ending).dropWhile isBlank = left ++ ending := by
    rw [List.dropWhile_append, hHead]
    split
    · exact ⟨[], rfl⟩
    · exact ⟨_, rfl⟩
  obtain ⟨left, hLeft⟩ := hLeft
  have hRight : dropEnd isBlank (left ++ ending) = left ++ ending :=
    List.rdropWhile_eq_self_iff.mpr fun hSome hBlank => by
      have hLast := hEnding.last _ (List.getLast?_eq_some_getLast hFilled)
      rw [List.getLast_append_of_ne_nil hSome hFilled, hLast] at hBlank
      cases hBlank
  rw [trimChars, hLeft, hRight]
  exact List.suffix_append _ _

theorem Source.normalUrl_of_indexFile {kind : Feed.Kind} {url : String}
    (hEnds : endsIn url kind.family.indexFile = true) :
    normalUrl kind url = Text.trim url ∧ endsIn (Text.trim url) kind.family.indexFile = true := by
  have hTrimmed : endsIn (Text.trim url) kind.family.indexFile = true := by
    rw [endsIn_iff] at hEnds ⊢
    rw [Text.trim, String.toList_ofList]
    exact Text.suffix_trimChars (Feed.Family.indexFile_isTrimmed kind)
      (Feed.Family.indexFile_ne_nil kind) hEnds
  refine ⟨?_, hTrimmed⟩
  have hFile : endsIn (Text.trim url) "/" = false := by
    rw [Bool.eq_false_iff, Ne, endsIn_iff]
    rw [endsIn_iff] at hTrimmed
    intro hSlash
    have hInside : ['/'] <:+ kind.family.indexFile.toList :=
      List.suffix_of_suffix_length_le hSlash hTrimmed
        (List.length_pos_iff.mpr (Feed.Family.indexFile_ne_nil kind))
    exact Feed.Family.indexFile_plain kind (hInside.subset List.mem_cons_self)
  rw [normalUrl, hFile]
  rfl

namespace Load

variable {σ : Type} {fetch : σ → String → Except Fetch.Cause (List UInt8) × σ}
  {validator : Validator} {request : Request} {forceOpen : Bool} {state : σ} {bytes : List UInt8}

/-- The address of an index file is the only one that a load tries. -/
theorem load_at_indexFile (hEnds : endsIn (request.address forceOpen) request.indexFile = true)
    (hFetch : (fetch state (request.address forceOpen)).1 = .ok bytes) :
    (load (.withValidator fetch validator) request forceOpen state).2 =
      (Attempt.ofBytes validator request.source.kind (request.address forceOpen) bytes).map
        fun attempt => (Trial.mk attempt none).outcome request forceOpen := by
  have hTrial : Trial.ofLoad fetch validator request forceOpen state =
      (Attempt.ofBytes validator request.source.kind (request.address forceOpen) bytes).map
        fun attempt => ⟨attempt, none⟩ := by
    simp only [Trial.ofLoad, hFetch, Attempt.ofAnswer, hEnds, Bool.not_true, Bool.and_false]
    cases Attempt.ofBytes validator request.source.kind (request.address forceOpen) bytes <;> rfl
  cases hAttempt : Attempt.ofBytes validator request.source.kind (request.address forceOpen) bytes with
  | error crash =>
      rw [hAttempt] at hTrial
      exact crashes_of_ofLoad hTrial
  | ok attempt =>
      rw [hAttempt] at hTrial
      exact (agrees_of_ofLoad hTrial).outcome

end Load

namespace Command

/-- A document declares a version that is understood, and is valid for it. -/
structure IsValid (kind : Feed.Kind) (version : Nat) (bytes : List UInt8) : Prop where
  detected : Feed.detectVersion kind bytes = .ok version
  supports : kind.family.supports version = true
  judge : Edition.judge ⟨kind, version⟩ bytes = .ok .valid

variable {kind : Feed.Kind} {version : Nat} {bytes : List UInt8} {files : Files} {path : Path}
  {name url : String}

theorem IsValid.validate (hValid : IsValid kind version bytes) (url : String) :
    Validator.standard.validate ⟨kind, version⟩ url bytes =
      .ok { isValid := true, space := some (kind.family.space version) } := by
  have hPublished : (Edition.mk kind version).isPublished = true := hValid.supports
  rw [Validator.validate_standard hPublished, hValid.judge]
  rfl

theorem IsValid.of_passes (hVersion : Feed.detectVersion kind bytes = .ok version)
    (hPasses : Validator.standard.Passes ⟨kind, version⟩ url bytes) :
    IsValid kind version bytes := by
  obtain ⟨hPublished, hJudge⟩ := hPasses.judge
  exact ⟨hVersion, hPublished, hJudge⟩

/-- The version of a valid document is one of the few that are published. -/
theorem IsValid.mem_published (hValid : IsValid kind version bytes) :
    (⟨kind, version⟩ : Edition) ∈ Edition.published :=
  Edition.mem_published hValid.supports

def validMessage (space : String) : String :=
  "✓ Valid " ++ space ++ "\n"

def versionMessage (version : Nat) (space : String) : String :=
  "Schema version " ++ toString version ++ " (supported)\n" ++ space ++ "\n"

theorem check_of_version (hVersion : versionOf kind bytes = .ok version) :
    check kind name bytes =
      if kind.family.supports version then
        match Validator.standard.validate ⟨kind, version⟩ name bytes with
        | .ok validation => .ok (.checked validation)
        | .error _ => .error .breakdown
      else .ok (.unsupported version) := by
  rw [check, hVersion]
  cases hSupports : kind.family.supports version with
  | false => simp [hSupports, bind, Except.bind, pure, Except.pure]
  | true =>
      simp only [bind, Except.bind, hSupports, Bool.not_true, if_true, pure, Except.pure]
      cases Validator.standard.validate ⟨kind, version⟩ name bytes <;> rfl

theorem validateFile_of_isValid (hValid : IsValid kind version bytes) :
    validateFile files kind path bytes =
      .keeping files (validMessage (kind.family.space version)) .success := by
  have hPrinted : ∀ edition ∈ Edition.published,
      Console.print (Console.styled .green "✓ Valid" ++ " " ++
          edition.kind.family.space edition.version) =
        validMessage (edition.kind.family.space edition.version) := by decide +kernel
  have hVersion : versionOf kind bytes = .ok version := by rw [versionOf, hValid.detected]
  rw [validateFile, check_of_version hVersion, if_pos hValid.supports, hValid.validate]
  simp only [Option.getD_some, if_true]
  rw [hPrinted _ hValid.mem_published]

theorem detectFile_of_isValid (hValid : IsValid kind version bytes) :
    detectFile files kind path bytes =
      .keeping files (versionMessage version (kind.family.space version)) .success := by
  have hPrinted : ∀ edition ∈ Edition.published,
      Console.print ("Schema version " ++ toString edition.version.toNat ++ " (" ++
          "supported" ++ ")") ++ Console.say .dim (edition.kind.family.space edition.version) =
        versionMessage edition.version.toNat (edition.kind.family.space edition.version) := by
    decide +kernel
  have hVersion : versionOf kind bytes = .ok version := by rw [versionOf, hValid.detected]
  have hPositive : (version == 0) = false := by
    rw [beq_eq_false_iff_ne]
    exact Feed.Family.ne_zero_of_supports hValid.supports
  have hLines := hPrinted _ hValid.mem_published
  simp only [Int.toNat_natCast] at hLines
  rw [← hLines, detectFile, hVersion]
  simp only [detectAnswer, hPositive, hValid.supports, if_true]
  rfl

theorem detectVersion_of_versionOf (hVersion : versionOf kind bytes = .ok version)
    (hPositive : version ≠ 0) : Feed.detectVersion kind bytes = .ok version := by
  rw [versionOf] at hVersion
  split at hVersion
  · rename_i found hFound
    rw [hFound, Except.ok.inj hVersion]
  · cases hVersion
  · exact absurd (Except.ok.inj hVersion).symm hPositive

theorem exists_isValid_of_check {validation : Validation}
    (hCheck : check kind name bytes = .ok (.checked validation))
    (hValid : validation.isValid = true) : ∃ version, IsValid kind version bytes := by
  cases hVersion : versionOf kind bytes with
  | error crash =>
      rw [check, hVersion] at hCheck
      cases hCheck
  | ok version =>
      rw [check_of_version hVersion] at hCheck
      split at hCheck
      · rename_i hSupports
        have hDetected :=
          detectVersion_of_versionOf hVersion (Feed.Family.ne_zero_of_supports hSupports)
        split at hCheck
        · rename_i answer hAnswer
          cases hCheck
          exact ⟨version, .of_passes hDetected ⟨validation, hAnswer, hValid⟩⟩
        · cases hCheck
      · cases hCheck

/-- A check ends well just where the document is valid. -/
theorem validateFile_status : (validateFile files kind path bytes).ending.status = 0 ↔
    ∃ version, IsValid kind version bytes := by
  constructor
  · intro hSuccess
    rw [validateFile] at hSuccess
    split at hSuccess
    · cases hSuccess
    · cases hSuccess
    · rename_i validation hCheck
      split at hSuccess
      · rename_i hValid
        exact exists_isValid_of_check hCheck hValid
      · cases hSuccess
  · rintro ⟨version, hValid⟩
    rw [validateFile_of_isValid hValid]
    rfl

variable {around : Surroundings} {settings : Settings} {options : LoadOptions} {root : Xml.Tree}
  {outcome : Load.Outcome}

/-- What comes of the load of an address. -/
def loadResult (around : Surroundings) (settings : Settings) (url : String)
    (options : LoadOptions) : Except Load.Crash Load.Outcome :=
  (Load.load (webServices settings around.web) ⟨.ofUrl url none options.kind, options.hint⟩
    (options.forceOpen || settings.forceOpen) []).2

theorem loadUrl_ending : (loadUrl around settings url options).ending =
    match loadResult around settings url options with
    | .error crash => .crash (.load crash)
    | .ok outcome => if outcome.isSuccess then .success else .failure := by
  simp only [loadUrl, loadResult]
  generalize Load.load (webServices settings around.web) _ _ _ = pair
  obtain ⟨run, result⟩ := pair
  cases result <;> rfl

theorem loadUrl_status : (loadUrl around settings url options).ending.status = 0 ↔
    ∃ outcome, loadResult around settings url options = .ok outcome ∧
      outcome.isSuccess = true := by
  rw [loadUrl_ending]
  generalize loadResult around settings url options = result
  constructor
  · intro hStatus
    cases result with
    | error crash => exact absurd hStatus Nat.one_ne_zero
    | ok outcome =>
        refine ⟨outcome, rfl, ?_⟩
        by_contra hFailed
        simp only [hFailed] at hStatus
        exact absurd hStatus Nat.one_ne_zero
  · rintro ⟨outcome, rfl, hSuccess⟩
    simp only [hSuccess]
    rfl

/-- The fetches of the program: each one goes over the web, whatever was sent before. -/
def fetchOver (settings : Settings) (web : Fetch.Web) (sent : List Fetch.Sent) (url : String) :
    Except Fetch.Cause (List UInt8) × List Fetch.Sent :=
  ((Fetch.fetch settings web url).1.mapError Fetch.FetchError.cause,
    sent ++ (Fetch.fetch settings web url).2)

theorem webServices_eq (settings : Settings) (web : Fetch.Web) :
    webServices settings web = .withValidator (fetchOver settings web) .standard :=
  rfl

/-- The address of an index file serves a document. -/
structure Serves (around : Surroundings) (settings : Settings) (url : String)
    (options : LoadOptions) (bytes : List UInt8) : Prop where
  file : endsIn url options.kind.family.indexFile = true
  served : (Fetch.fetch settings around.web (Load.fetchUrl
    (options.forceOpen || settings.forceOpen) (Text.trim url))).1 = .ok bytes

/-- What the load of a command is asked for. -/
def request (url : String) (options : LoadOptions) : Load.Request :=
  ⟨.ofUrl url none options.kind, options.hint⟩

theorem Serves.loadResult (hServes : Serves around settings url options bytes) :
    loadResult around settings url options =
      (Load.Attempt.ofBytes .standard options.kind
        ((request url options).address (options.forceOpen || settings.forceOpen)) bytes).map
          fun attempt => (Load.Trial.mk attempt none).outcome (request url options)
            (options.forceOpen || settings.forceOpen) := by
  obtain ⟨hUrl, hEnds⟩ := Source.normalUrl_of_indexFile hServes.file
  have hAddress : (request url options).address (options.forceOpen || settings.forceOpen) =
      Load.fetchUrl (options.forceOpen || settings.forceOpen) (Text.trim url) := by
    simp only [Load.Request.address, request, Source.ofUrl, hUrl]
  have hFetch : (fetchOver settings around.web []
      ((request url options).address (options.forceOpen || settings.forceOpen))).1 =
        .ok bytes := by
    rw [hAddress, fetchOver, hServes.served]
    rfl
  have hFile : endsIn ((request url options).address (options.forceOpen || settings.forceOpen))
      (request url options).indexFile = true := by
    rw [hAddress]
    exact Load.fetchUrl_endsIn hEnds
  rw [Command.loadResult, webServices_eq]
  exact Load.load_at_indexFile hFile hFetch

/-- A valid document that can be read is loaded, and not as one of which only tools are left. -/
theorem Serves.loadResult_of_isValid (hServes : Serves around settings url options bytes)
    (hValid : IsValid options.kind version bytes) (hRead : Xml.read bytes = .ok root) :
    ∃ outcome, Command.loadResult around settings url options = .ok outcome ∧
      outcome.isSuccess = true ∧ outcome.needsUpgrade = false ∧ outcome.version = version ∧
      outcome.space = some (options.kind.family.space version) := by
  rw [hServes.loadResult, Load.Attempt.ofBytes, hValid.detected]
  simp only [hValid.supports, if_true]
  rw [Load.Attempt.ofSupported, hValid.validate, hRead]
  exact ⟨_, rfl, rfl, rfl, rfl, rfl⟩

theorem Serves.exists_isValid (hServes : Serves around settings url options bytes)
    (hResult : Command.loadResult around settings url options = .ok outcome)
    (hSuccess : outcome.isSuccess = true) (hUpgrade : outcome.needsUpgrade = false) :
    ∃ version, IsValid options.kind version bytes := by
  rw [hServes.loadResult] at hResult
  cases hAttempt : Load.Attempt.ofBytes .standard options.kind
      ((request url options).address (options.forceOpen || settings.forceOpen)) bytes with
  | error crash =>
      rw [hAttempt] at hResult
      cases hResult
  | ok attempt =>
      rw [hAttempt] at hResult
      obtain rfl := Except.ok.inj hResult
      cases Load.Attempt.ofBytes_judged hAttempt with
      | read hVersion hSupports hAnswer hValid hRead =>
          exact ⟨_, .of_passes hVersion ⟨_, hAnswer, hValid⟩⟩
      | salvaged => cases hUpgrade
      | unrecognized | invalid | unchecked | unreadable | tooNew => cases hSuccess

/-- A file with a document passes the check just where the document is loaded from an address that names
the index file, with nothing in it too new. The check then tells the namespace, and the detection
the version, that the packages are read for. -/
theorem validate_iff_load {file : String}
    (hFile : fileAt around.files file = .ok (some (path, bytes)))
    (hServes : Serves around settings url options bytes) (hAgree : ReadersAgree bytes) :
    ((run around settings (.validate file options.kind)).ending.status = 0 ↔
      (run around settings (.load url options)).ending.status = 0 ∧
        ∃ outcome, loadResult around settings url options = .ok outcome ∧
          outcome.needsUpgrade = false) ∧
    ((run around settings (.validate file options.kind)).ending.status = 0 →
      ∃ outcome space, loadResult around settings url options = .ok outcome ∧
        outcome.space = some space ∧
        (run around settings (.validate file options.kind)).output = validMessage space ∧
        (run around settings (.detect file options.kind)).ending.status = 0 ∧
        (run around settings (.detect file options.kind)).output =
          versionMessage outcome.version space) := by
  have hValidate : run around settings (.validate file options.kind) =
      validateFile around.files options.kind path bytes := by
    simp only [run, withFile, hFile]
  have hDetect : run around settings (.detect file options.kind) =
      detectFile around.files options.kind path bytes := by
    simp only [run, withFile, hFile]
  have hLoaded {version : Nat} (hValid : IsValid options.kind version bytes) :
      ∃ outcome, loadResult around settings url options = .ok outcome ∧
        outcome.isSuccess = true ∧ outcome.needsUpgrade = false ∧ outcome.version = version ∧
        outcome.space = some (options.kind.family.space version) := by
    obtain ⟨_, root, hRead, _⟩ :=
      Validator.Passes.exists_root ⟨_, hValid.validate "", rfl⟩ hAgree
    exact hServes.loadResult_of_isValid hValid hRead
  have hLoad : run around settings (.load url options) = loadUrl around settings url options := rfl
  rw [hValidate, hDetect, hLoad, validateFile_status, loadUrl_status]
  refine ⟨⟨?_, ?_⟩, ?_⟩
  · rintro ⟨version, hValid⟩
    obtain ⟨outcome, hResult, hSuccess, hUpgrade, _⟩ := hLoaded hValid
    exact ⟨⟨outcome, hResult, hSuccess⟩, outcome, hResult, hUpgrade⟩
  · rintro ⟨⟨other, hOther, hSuccess⟩, outcome, hResult, hUpgrade⟩
    obtain rfl : outcome = other := Except.ok.inj (hResult.symm.trans hOther)
    exact hServes.exists_isValid hResult hSuccess hUpgrade
  · rintro ⟨version, hValid⟩
    obtain ⟨outcome, hResult, _, _, rfl, hSpace⟩ := hLoaded hValid
    refine ⟨outcome, _, hResult, hSpace, ?_⟩
    rw [validateFile_of_isValid hValid, detectFile_of_isValid hValid]
    exact ⟨rfl, rfl, rfl⟩

/-- The index of the tools, in a file and on the web. -/
def shelf : Surroundings where
  files := ⟨[(Path.ofText "repository.xml", Load.toolIndex)], []⟩
  web := fun url =>
    if url == "https://sdk.test/repository.xml" then .ok ⟨Load.toolIndex, none⟩
    else .error (.failure (.notFound url))
  environment := []
  home := ⟨"/", ["home", "user"]⟩

/-- Load the index of the tools. -/
def shelfOptions : LoadOptions where
  kind := .repository
  forceOpen := false
  hint := .tools
  os := none
  asJson := false

theorem shelf_validate_iff_load :
    fileAt shelf.files "repository.xml" =
      .ok (some (Path.ofText "repository.xml", Load.toolIndex)) ∧
    Serves shelf (Settings.standard shelf.home) " https://sdk.test/repository.xml" shelfOptions
      Load.toolIndex ∧
    ReadersAgree Load.toolIndex ∧
    (run shelf (Settings.standard shelf.home)
      (.validate "repository.xml" .repository)).ending.status = 0 ∧
    (run shelf (Settings.standard shelf.home)
      (.load " https://sdk.test/repository.xml" shelfOptions)).ending.status = 0 := by
  have hFile : fileAt shelf.files "repository.xml" =
      .ok (some (Path.ofText "repository.xml", Load.toolIndex)) := by decide +kernel
  have hServes : Serves shelf (Settings.standard shelf.home) " https://sdk.test/repository.xml"
      shelfOptions Load.toolIndex := ⟨by decide +kernel, rfl⟩
  have hValid : IsValid .repository 3 Load.toolIndex :=
    .of_passes (by decide +kernel) Package.toolIndex_passes
  have hChecked : (run shelf (Settings.standard shelf.home)
      (.validate "repository.xml" .repository)).ending.status = 0 := by
    simp only [run, withFile, hFile]
    exact validateFile_status.mpr ⟨3, hValid⟩
  have hBoth := validate_iff_load hFile hServes Package.toolIndex_readersAgree
  exact ⟨hFile, hServes, Package.toolIndex_readersAgree, hChecked, (hBoth.1.mp hChecked).1⟩

end Command

end SdkFeed
