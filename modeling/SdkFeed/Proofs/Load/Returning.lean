import SdkFeed.Proofs.Load.Agreement
import SdkFeed.Proofs.Schema.Validity

/-! What makes a load crash. The version of a document cannot be told if its declaration names an
encoding that nobody knows, and the check breaks down at a reference in element content that it
comes upon; a load that meets neither returns an outcome. -/
namespace SdkFeed.Xml

/-- The declaration of a document names an encoding that nobody knows. -/
def Text.NamesUnknown (bytes : List UInt8) (name : String) : Prop :=
  ∃ declaration start,
    Declaration.ofStart? (opening (Charset.announced bytes).1 (Charset.announced bytes).2.2) =
      some (declaration, start) ∧
    declaration.encoding = some name ∧
    (Charset.announced bytes).1.settle name = .error (.encoding (.unknown name))

/-- Whether a name with this meaning is known. -/
def Label.isKnown : Label → Bool
  | fault (.unknown _) => false
  | _ => true

theorem Label.groups_isKnown : ∀ group ∈ groups, group.label.isKnown = true := by
  decide

theorem Label.isKnown_of_ofOwnName? {name : String} {label : Label}
    (hLabel : ofOwnName? name = some label) : label.isKnown = true := by
  rw [ofOwnName?] at hLabel
  split at hLabel
  · rename_i group hGroup
    obtain rfl := Option.some.inj hLabel
    exact groups_isKnown group (List.mem_of_find?_eq_some hGroup)
  · obtain ⟨upper, _, rfl⟩ := Option.map_eq_some_iff.mp hLabel
    rfl

theorem Label.isKnown_of_ofOtherName? {name : String} {label : Label}
    (hLabel : ofOtherName? name = some label) : label.isKnown = true := by
  rw [ofOtherName?] at hLabel
  split at hLabel
  · rename_i group hGroup
    obtain rfl := Option.some.inj hLabel
    exact groups_isKnown group (List.mem_of_find?_eq_some hGroup)
  · obtain ⟨⟨page, labels⟩, _, hPage⟩ := Option.bind_eq_some_iff.mp hLabel
    obtain rfl := Option.some.inj hPage
    rfl

/-- Only the name itself is ever said to be unknown. -/
theorem Label.ofName_eq_unknown {name other : String}
    (hName : ofName name = .fault (.unknown other)) : other = name := by
  simp only [ofName] at hName
  cases hLabel : (ofOtherName? (plainName name)).or ((ofOtherName? (String.ofList
      ((plainName name).toList.map fun c => if c == '.' then '_' else c))).or
        (ofOwnName? (plainName name))) with
  | none =>
      rw [hLabel, Option.getD_none] at hName
      cases hName
      rfl
  | some label =>
      have hKnown : label.isKnown = true := by
        rcases Option.or_eq_some_iff.mp hLabel with hOther | ⟨_, hRest⟩
        · exact isKnown_of_ofOtherName? hOther
        · rcases Option.or_eq_some_iff.mp hRest with hDotless | ⟨_, hOwn⟩
          · exact isKnown_of_ofOtherName? hDotless
          · exact isKnown_of_ofOwnName? hOwn
      rw [hLabel, Option.getD_some] at hName
      rw [hName] at hKnown
      cases hKnown

theorem Charset.settle_eq_unknown {announced : Charset} {name other : String}
    (hSettle : announced.settle name = .error (.encoding (.unknown other))) : other = name := by
  unfold settle at hSettle
  dsimp only at hSettle
  split at hSettle
  case h_7 =>
    split at hSettle
    · split at hSettle <;> cases hSettle
    · cases hSettle
    · rename_i fault hFault
      obtain rfl : fault = .unknown other := by cases hSettle; rfl
      exact Label.ofName_eq_unknown hFault
  -- The other names are known, and they are only wrong in the wrong place.
  all_goals split at hSettle <;> cases hSettle

/-- The text of a document is in an unknown encoding just where its declaration says so. -/
theorem Text.ofBytes_eq_unknown {bytes : List UInt8} {name : String} :
    ofBytes bytes = .error (.encoding (.unknown name)) ↔ NamesUnknown bytes name := by
  rw [ofBytes]
  dsimp only
  constructor
  · intro hText
    split at hText
    · rename_i declaration start hStart
      split at hText
      · rcases bind_eq_error.mp hText with hNone | ⟨charset, _, hDecode⟩
        · cases hNone
        · split at hDecode <;> cases hDecode
      · rename_i declared hNamed
        rcases bind_eq_error.mp hText with hSettle | ⟨charset, _, hDecode⟩
        · obtain rfl := Charset.settle_eq_unknown hSettle
          exact ⟨declaration, start, hStart, hNamed, hSettle⟩
        · split at hDecode <;> cases hDecode
    · cases hText
  · rintro ⟨declaration, start, hStart, hNamed, hSettle⟩
    simp only [hStart, hNamed, hSettle]
    rfl

end SdkFeed.Xml

namespace SdkFeed.Feed

/-- The version of a document can be told unless it names an unknown encoding. -/
theorem detectVersion_eq_ok {kind : Kind} {bytes : List UInt8} :
    (∃ version, detectVersion kind bytes = .ok version) ↔
      ∀ name, ¬Xml.Text.NamesUnknown bytes name := by
  constructor
  · rintro ⟨version, hVersion⟩ name hName
    have hError : detectVersion kind bytes = .error (.encoding (.unknown name)) :=
      detectVersion_eq_error.mpr ⟨name, rfl, Xml.Text.ofBytes_eq_unknown.mpr hName⟩
    rw [hVersion] at hError
    cases hError
  · intro hKnown
    cases hVersion : detectVersion kind bytes with
    | ok version => exact ⟨version, rfl⟩
    | error error =>
        obtain ⟨name, _, hText⟩ := detectVersion_eq_error.mp hVersion
        exact absurd (Xml.Text.ofBytes_eq_unknown.mp hText) (hKnown name)

end SdkFeed.Feed

namespace SdkFeed.Load

open SdkFeed.Feed (Kind)

/-- What a load crashes with at a document. -/
inductive Baffles (validator : Schema.Validator) (kind : Kind) (bytes : List UInt8) :
    Crash → Prop where
  | encoding {name : String} (hName : Xml.Text.NamesUnknown bytes name) :
      Baffles validator kind bytes (.encoding (.unknown name))
  | breakdown {version : Nat} (hVersion : Feed.detectVersion kind bytes = .ok version)
      (hBreaks : validator.BreaksDown ⟨kind, version⟩ bytes) :
      Baffles validator kind bytes .breakdown

variable {σ : Type} {fetch : σ → String → Except Fetch.Cause (List UInt8) × σ}
  {validator : Schema.Validator} {request : Request} {forceOpen : Bool} {state : σ} {crash : Crash}

/-- An attempt comes to nothing just at a document that baffles the load. -/
theorem Attempt.ofBytes_eq_error_iff {kind : Kind} {url : String} {bytes : List UInt8} :
    ofBytes validator kind url bytes = .error crash ↔ Baffles validator kind bytes crash := by
  constructor
  · intro hAttempt
    rcases ofBytes_eq_error hAttempt with
      ⟨fault, rfl, hVersion⟩ | ⟨version, ⟨⟩, rfl, hVersion, hSupports, hAnswer⟩
    · obtain ⟨name, hFault, hText⟩ := Feed.detectVersion_eq_error.mp hVersion
      obtain rfl : fault = .unknown name := by cases hFault; rfl
      exact .encoding (Xml.Text.ofBytes_eq_unknown.mp hText)
    · exact .breakdown hVersion (Schema.Validator.validate_eq_error.mp hAnswer)
  · intro hBaffles
    cases hBaffles with
    | encoding hName =>
        rw [ofBytes, Feed.detectVersion_eq_error.mpr
          ⟨_, rfl, Xml.Text.ofBytes_eq_unknown.mpr hName⟩]
    | breakdown hVersion hBreaks =>
        rename_i version
        have hSupports : kind.family.supports version = true := hBreaks.2.1
        rw [ofBytes, hVersion]
        simp only [hSupports, if_true, ofSupported,
          Schema.Validator.validate_eq_error.mpr hBreaks]

/-- The documents that a load looks at: the one at its address and, when that leads nowhere, the one
at the address of the index file below it. -/
inductive Meets (fetch : σ → String → Except Fetch.Cause (List UInt8) × σ)
    (validator : Schema.Validator) (request : Request) (forceOpen : Bool) (state : σ)
    (bytes : List UInt8) : Prop where
  | first (hFetch : (fetch state (request.address forceOpen)).1 = .ok bytes)
  | second {first : Attempt}
      (hFirst : Attempt.ofAnswer validator request.source.kind (request.address forceOpen)
        (fetch state (request.address forceOpen)).1 = .ok first)
      (hLeadsOn : first.leadsOn = true)
      (hEnds : endsIn (request.address forceOpen) request.indexFile = false)
      (hFetch : (fetch (fetch state (request.address forceOpen)).2
        (request.fallback forceOpen)).1 = .ok bytes)

theorem Attempt.ofAnswer_eq_error {kind : Kind} {url : String}
    {answer : Except Fetch.Cause (List UInt8)} :
    ofAnswer validator kind url answer = .error crash ↔
      ∃ bytes, answer = .ok bytes ∧ Baffles validator kind bytes crash := by
  cases answer with
  | error cause => exact iff_of_false nofun nofun
  | ok bytes => simp only [ofAnswer, ofBytes_eq_error_iff, Except.ok.injEq, exists_eq_left']

/-- The attempts of a load come to nothing just at a document that baffles it. -/
theorem Trial.ofLoad_eq_error :
    ofLoad fetch validator request forceOpen state = .error crash ↔
      ∃ bytes, Meets fetch validator request forceOpen state bytes ∧
        Baffles validator request.source.kind bytes crash := by
  constructor
  · intro hTrial
    rcases bind_eq_error.mp hTrial with hCrash | ⟨first, hFirst, hRest⟩
    · obtain ⟨bytes, hFetch, hBaffles⟩ := Attempt.ofAnswer_eq_error.mp hCrash
      exact ⟨bytes, .first hFetch, hBaffles⟩
    · split at hRest
      · rename_i hOn
        obtain ⟨hLeadsOn, hEnds⟩ := Attempt.leadsOn_and.mp hOn
        rcases bind_eq_error.mp hRest with hCrash | ⟨second, _, hPair⟩
        · obtain ⟨bytes, hFetch, hBaffles⟩ := Attempt.ofAnswer_eq_error.mp hCrash
          exact ⟨bytes, .second hFirst hLeadsOn hEnds hFetch, hBaffles⟩
        · cases hPair
      · cases hRest
  · rintro ⟨bytes, hMeets, hBaffles⟩
    cases hMeets with
    | first hFetch =>
        exact bind_eq_error.mpr (.inl (Attempt.ofAnswer_eq_error.mpr ⟨bytes, hFetch, hBaffles⟩))
    | second hFirst hLeadsOn hEnds hFetch =>
        refine bind_eq_error.mpr (.inr ⟨_, hFirst, ?_⟩)
        rw [if_pos (Attempt.leadsOn_and.mpr ⟨hLeadsOn, hEnds⟩)]
        exact bind_eq_error.mpr (.inl (Attempt.ofAnswer_eq_error.mpr ⟨bytes, hFetch, hBaffles⟩))

/-- A load crashes just where one of its attempts comes to nothing. -/
theorem load_eq_error :
    (load (.withValidator fetch validator) request forceOpen state).2 = .error crash ↔
      Trial.ofLoad fetch validator request forceOpen state = .error crash := by
  refine ⟨fun hLoad => ?_, crashes_of_ofLoad⟩
  cases hTrial : Trial.ofLoad fetch validator request forceOpen state with
  | error other =>
      rw [crashes_of_ofLoad hTrial] at hLoad
      rw [Except.error.inj hLoad]
  | ok trial =>
      rw [(agrees_of_ofLoad hTrial).outcome] at hLoad
      cases hLoad

/-- What can go wrong, and nothing else can. The version of a document can be told unless the document
names an unknown encoding, and it is zero where the document cannot be read; the check answers
unless it is made and comes upon a reference; and a load returns an outcome unless one of the
documents that it looks at is of these two sorts. -/
theorem load_returns_unless_baffled (kind : Kind) (bytes : List UInt8) (edition : Schema.Edition)
    (url : String) (fetch : σ → String → Except Fetch.Cause (List UInt8) × σ)
    (validator : Schema.Validator) (request : Request) (forceOpen : Bool) (state : σ) :
    (match Feed.detectVersion kind bytes with
      | .ok version => (∀ name, ¬Xml.Text.NamesUnknown bytes name) ∧ (version = 0 ∨
          ∃ document, Xml.Document.ofBytes bytes = .ok document ∧
            Feed.versionOfRoot kind document.root = version)
      | .error error => ∃ name, error = .encoding (.unknown name) ∧
          Xml.Text.NamesUnknown bytes name) ∧
    (match validator.validate edition url bytes with
      | .ok _ => ¬validator.BreaksDown edition bytes
      | .error _ => validator.BreaksDown edition bytes) ∧
    match (load (.withValidator fetch validator) request forceOpen state).2 with
      | .ok _ => ∀ looked crash, Meets fetch validator request forceOpen state looked →
          ¬Baffles validator request.source.kind looked crash
      | .error crash => ∃ looked, Meets fetch validator request forceOpen state looked ∧
          Baffles validator request.source.kind looked crash := by
  refine ⟨?_, ?_, ?_⟩
  · split
    · rename_i version hVersion
      refine ⟨Feed.detectVersion_eq_ok.mp ⟨version, hVersion⟩, ?_⟩
      by_cases hZero : version = 0
      · exact .inl hZero
      · exact .inr (Feed.detectVersion_document hVersion hZero)
    · rename_i error hError
      obtain ⟨name, rfl, hText⟩ := Feed.detectVersion_eq_error.mp hError
      exact ⟨name, rfl, Xml.Text.ofBytes_eq_unknown.mp hText⟩
  · split
    · rename_i validation hAnswer
      intro hBreaks
      rw [Schema.Validator.validate_eq_error.mpr hBreaks] at hAnswer
      cases hAnswer
    · rename_i hAnswer
      exact Schema.Validator.validate_eq_error.mp hAnswer
  · split
    · rename_i outcome hLoad
      intro looked crash hMeets hBaffles
      rw [load_eq_error.mpr (Trial.ofLoad_eq_error.mpr ⟨looked, hMeets, hBaffles⟩)] at hLoad
      cases hLoad
    · rename_i crash hLoad
      exact Trial.ofLoad_eq_error.mp (load_eq_error.mp hLoad)

/-- An empty index in an encoding that nobody knows. -/
def strangeIndex : List UInt8 :=
  asciiBytes (['<', '?', 'x', 'm', 'l', ' ', 'v', 'e', 'r', 's', 'i', 'o', 'n', '=', '"', '1', '.',
    '0', '"', ' ', 'e', 'n', 'c', 'o', 'd', 'i', 'n', 'g', '=', '"', 'x', '-', 'n', 'o', 'n', 'e',
    '"', '?', '>'] ++ indexTag ++ ['/', '>'])

/-- An index whose only license refers to an entity. -/
def referringIndex : List UInt8 :=
  asciiBytes (['<', '!', 'D', 'O', 'C', 'T', 'Y', 'P', 'E', ' ', 'd', ' ', '[', '<', '!', 'E', 'N',
    'T', 'I', 'T', 'Y', ' ', 'e', ' ', '"', 'x', '"', '>', ']', '>'] ++ indexTag ++ ['>', '<', 'l',
    'i', 'c', 'e', 'n', 's', 'e', ' ', 'i', 'd', '=', '"', 'a', '"', '>', '&', 'e', ';', '<', '/',
    'l', 'i', 'c', 'e', 'n', 's', 'e', '>', '<', '/', 's', 'd', 'k', '-', 'r', 'e', 'p', 'o', 's',
    'i', 't', 'o', 'r', 'y', '>'])

/-- Loads of these two crash, the one for its encoding and the other for its reference. -/
theorem strange_loads_crash :
    Feed.detectVersion .repository strangeIndex = .error (.encoding (.unknown "x-none")) ∧
    (load (.withValidator serving .standard)
        (.ofUrl "https://sdk.test/repository.xml") false [strangeIndex]).2 =
      .error (.encoding (.unknown "x-none")) ∧
    Schema.Validator.standard.validate ⟨.repository, 3⟩ "https://sdk.test/repository.xml"
      referringIndex = .error ⟨⟩ ∧
    (load (.withValidator serving .standard)
        (.ofUrl "https://sdk.test/repository.xml") false [referringIndex]).2 =
      .error .breakdown :=
  ⟨by decide +kernel, load_eq_error.mpr (by decide +kernel), by decide +kernel,
    load_eq_error.mpr (by decide +kernel)⟩

end SdkFeed.Load
