import SdkFeed.Proofs.Catalog.Interleaving
import SdkFeed.Proofs.Catalog.Storage
import SdkFeed.Proofs.Success

/-! What is read from a sources file, whatever value it holds. A file that is no list has no sources at
all, and of the entries of a list the first that is not valid is the one that is told; only a kind that
cannot be shown is no error of the catalog. The sources of valid entries make up the catalog: of those
with one address the first, unless the built-in source has it. -/
namespace SdkFeed.Catalog

open SdkFeed.Feed (Kind)
open SdkFeed.Yaml

/-- The fields of a mapping. -/
abbrev Fields :=
  List (Value × Value)

/-- The fields of an entry, if it is a mapping. -/
def mapping? (contents : Contents) (entry : Value) : Option Fields :=
  match contents.collection? entry with
  | some (.mapping fields) => some fields
  | _ => none

/-- The entries of a sources file, if its value is a list or nothing at all. Pairs make a list of entries
that are no mappings. -/
def entries? (document : Document) : Option (List (Option Fields)) :=
  match document.root, document.contents.collection? document.root with
  | .null, _ => some []
  | _, some (.list entries) => some (entries.map (mapping? document.contents))
  | _, some (.pairs pairs) => some (pairs.map fun _ => none)
  | _, _ => none

/-- An address that is a text, and not blank. -/
def HasUrl (fields : Fields) : Prop :=
  ∃ url, Value.field? fields "url" = some (.text url) ∧ Text.trim url ≠ ""

/-- No name, nothing as a name, or a text. -/
def HasName (fields : Fields) : Prop :=
  Value.field? fields "name" = none ∨ Value.field? fields "name" = some .null ∨
    ∃ name, Value.field? fields "name" = some (.text name)

/-- No kind, or the name of one. -/
def HasKind (fields : Fields) : Prop :=
  Value.field? fields "kind" = none ∨ Value.field? fields "kind" = some (.text "repository") ∨
    Value.field? fields "kind" = some (.text "addon")

/-- An entry that tells of a source. -/
structure IsValid (fields : Fields) : Prop where
  url : HasUrl fields
  name : HasName fields
  kind : HasKind fields

/-- An entry is a mapping and valid. -/
def IsValidEntry (entry : Option Fields) : Prop :=
  ∃ fields, entry = some fields ∧ IsValid fields

/-- An entry in which only the kind is wrong, and is a value that cannot be shown. -/
structure HasUnshownKind (contents : Contents) (fields : Fields) (fault : Yaml.Fault) : Prop where
  url : HasUrl fields
  name : HasName fields
  kind : ∃ kind, Value.field? fields "kind" = some kind ∧ contents.display kind = .error fault

/-- The source of an entry: at the address that its kind makes of the one given, with the name if it is
not empty, and an add-on site unless the kind says otherwise. -/
structure Describes (fields : Fields) (source : Source) : Prop where
  url : ∃ url, Value.field? fields "url" = some (.text url) ∧ source = .ofUrl url source.name source.kind
  name : ∀ name, source.name = some name ↔ Value.field? fields "name" = some (.text name) ∧ name ≠ ""
  kind : source.kind = .repository ↔ Value.field? fields "kind" = some (.text "repository")

/-- A value that may not be shown as a text: an integer of too many digits, or a collection. -/
def IsLarge : Value → Prop
  | .int n => Nat.pow 10 Text.digitLimit ≤ n.natAbs
  | .collection _ => True
  | _ => False

/-- The first entry that is not valid, and its position. -/
def IsFirstInvalid (document : Document) (index : Nat) (entry : Option Fields) : Prop :=
  ∃ before after, entries? document = some (before ++ entry :: after) ∧ before.length = index ∧
    (∀ earlier ∈ before, IsValidEntry earlier) ∧ ¬ IsValidEntry entry

/-- What comes of a sources file with a value. -/
structure IsJudged (path : Path) (includeBuiltin : Bool) (document : Document)
    (result : Except FileError Catalog) : Prop where
  /-- There is an error of the catalog if there is no list, or an entry that is not valid. -/
  rejected : (∃ error, result = .error (.catalog error)) ↔ entries? document = none ∨
    ∃ index entry, IsFirstInvalid document index entry ∧
      ∀ fields fault, entry = some fields → ¬ HasUnshownKind document.contents fields fault
  /-- The error is about the first entry that is not valid. -/
  index : ∀ error, result = .error (.catalog error) →
    error.index? = none ∧ entries? document = none ∨
      ∃ index entry, error.index? = some index ∧ IsFirstInvalid document index entry
  /-- If the first such entry has a kind that cannot be shown, this is what goes wrong. -/
  unshown : ∀ fault, result = .error (.value fault) ↔ ∃ index fields,
    IsFirstInvalid document index (some fields) ∧ HasUnshownKind document.contents fields fault
  large : ∀ fault, result = .error (.value fault) → ∃ index fields kind,
    IsFirstInvalid document index (some fields) ∧ Value.field? fields "kind" = some kind ∧ IsLarge kind
  accepted : (∃ catalog, result = .ok catalog) ↔
    ∃ entries, entries? document = some entries ∧ ∀ entry ∈ entries, IsValidEntry entry
  catalog : ∀ catalog, result = .ok catalog → ∃ entries sources,
    entries? document = some entries ∧
    List.Forall₂ (fun entry source => ∃ fields, entry = some fields ∧ Describes fields source)
      entries sources ∧
    catalog = { fresh (some path) includeBuiltin with
      user := firstHolders ((fresh (some path) includeBuiltin).builtin.map (·.url)) sources }

variable {contents : Contents} {fields : Fields} {entry : Option Fields} {source : Source}
  {sources : List Source} {document : Document} {path : Path} {includeBuiltin : Bool}

section Fields

theorem entryUrl_eq_ok {url : String} : entryUrl fields = .ok url ↔
    Value.field? fields "url" = some (.text url) ∧ Text.trim url ≠ "" := by
  rw [entryUrl]
  split
  · rename_i other hField
    rw [hField]
    by_cases hBlank : Text.trim other = ""
    · rw [if_pos (String.isEmpty_iff.mpr hBlank)]
      simp only [reduceCtorEq, false_iff]
      rintro ⟨hSame, hFilled⟩
      cases hSame
      exact hFilled hBlank
    · rw [if_neg fun hEmpty => hBlank (String.isEmpty_iff.mp hEmpty)]
      constructor
      · intro hUrl
        cases hUrl
        exact ⟨rfl, hBlank⟩
      · rintro ⟨hSame, _⟩
        cases hSame
        rfl
  · rename_i hOther
    simp only [reduceCtorEq, false_iff]
    exact fun hUrl => hOther url hUrl.1

theorem isOk_entryUrl : (entryUrl fields).isOk = true ↔ HasUrl fields := by
  simp only [isOk_iff, entryUrl_eq_ok, HasUrl]

theorem isOk_entryName : (entryName fields).isOk = true ↔ HasName fields := by
  rw [entryName, HasName]
  split <;> simp_all [Except.isOk, Except.toBool]

/-- An empty name counts as none. -/
theorem entryName_some {name : Option String} (hName : entryName fields = .ok name) (text : String) :
    name = some text ↔ Value.field? fields "name" = some (.text text) ∧ text ≠ "" := by
  rw [entryName] at hName
  split at hName
  · rename_i hNone
    cases hName
    simp [hNone]
  · rename_i hNull
    cases hName
    simp [hNull]
  · rename_i words hText
    cases hName
    by_cases hEmpty : words = ""
    · simp [hText, hEmpty]
    · simp only [hText, String.isEmpty_iff, hEmpty, if_false, Option.some.injEq, Value.text.injEq,
        iff_self_and]
      rintro rfl
      exact hEmpty
  · cases hName

/-- What is read for a kind: that of an add-on site where there is none, the one that is named, or an error
about the value that is no name of a kind. -/
theorem entryKind_cases (contents : Contents) (fields : Fields) :
    (Value.field? fields "kind" = none ∧ entryKind contents fields = .ok .addon) ∨
    (∃ kind : Kind, Value.field? fields "kind" = some (.text kind.name) ∧
      entryKind contents fields = .ok kind) ∨
    ∃ value, Value.field? fields "kind" = some value ∧ (∀ kind : Kind, value ≠ .text kind.name) ∧
      entryKind contents fields = .error (.ofKind contents value) := by
  rw [entryKind]
  cases hField : Value.field? fields "kind" with
  | none => exact .inl ⟨rfl, rfl⟩
  | some value =>
      by_cases hNamed : ∃ kind : Kind, value = .text kind.name
      · obtain ⟨kind, rfl⟩ := hNamed
        exact .inr (.inl ⟨kind, rfl, by cases kind <;> rfl⟩)
      · refine .inr (.inr ⟨value, rfl, fun kind hSame => hNamed ⟨kind, hSame⟩, ?_⟩)
        cases value with
        | text name =>
            have hNone : Kind.ofName? name = none := by
              refine List.find?_eq_none.mpr fun kind _ hSame => hNamed ⟨kind, ?_⟩
              rw [beq_iff_eq.mp hSame]
            simp only [hNone]
        | _ => rfl

theorem hasKind_iff : HasKind fields ↔ Value.field? fields "kind" = none ∨
    ∃ kind : Kind, Value.field? fields "kind" = some (.text kind.name) := by
  constructor
  · rintro (hNone | hText | hText)
    · exact .inl hNone
    · exact .inr ⟨.repository, hText⟩
    · exact .inr ⟨.addon, hText⟩
  · rintro (hNone | ⟨_ | _, hText⟩)
    · exact .inl hNone
    · exact .inr (.inl hText)
    · exact .inr (.inr hText)

theorem isOk_entryKind : (entryKind contents fields).isOk = true ↔ HasKind fields := by
  rw [hasKind_iff]
  rcases entryKind_cases contents fields with
    ⟨hField, hKind⟩ | ⟨kind, hField, hKind⟩ | ⟨value, hField, hOther, hKind⟩
  · rw [hKind]
    exact iff_of_true rfl (.inl hField)
  · rw [hKind]
    exact iff_of_true rfl (.inr ⟨kind, hField⟩)
  · rw [hKind, hField]
    refine iff_of_false nofun ?_
    rintro (hNone | ⟨kind, hText⟩)
    · cases hNone
    · exact hOther kind (Option.some.inj hText)

theorem entryKind_eq_repository {kind : Kind} (hRead : entryKind contents fields = .ok kind) :
    kind = .repository ↔ Value.field? fields "kind" = some (.text "repository") := by
  rcases entryKind_cases contents fields with
    ⟨hField, hKind⟩ | ⟨other, hField, hKind⟩ | ⟨value, hField, _, hKind⟩
  · rw [hRead] at hKind
    cases hKind
    rw [hField]
    exact iff_of_false nofun nofun
  · rw [hRead] at hKind
    cases hKind
    rw [hField]
    cases kind <;> decide
  · rw [hRead] at hKind
    cases hKind

/-- A text can always be shown, so a kind that cannot be shown is not valid. -/
theorem HasUnshownKind.not_hasKind {fault : Yaml.Fault}
    (hUnshown : HasUnshownKind contents fields fault) : ¬ HasKind fields := by
  obtain ⟨kind, hField, hDisplay⟩ := hUnshown.kind
  rintro (hNone | hText | hText)
  · rw [hField] at hNone
    cases hNone
  · rw [hField] at hText
    cases hText
    cases hDisplay
  · rw [hField] at hText
    cases hText
    cases hDisplay

theorem display_int (contents : Contents) (n : Int) : contents.display (.int n) =
    if n.natAbs < Nat.pow 10 Text.digitLimit then .ok (toString n)
    else .error (.outOfRange Text.tooLargeToShow) :=
  rfl

/-- Only large values cannot be shown. -/
theorem isLarge_of_display {kind : Value} {fault : Yaml.Fault}
    (hDisplay : contents.display kind = .error fault) : IsLarge kind := by
  cases kind with
  | int n =>
      rw [display_int] at hDisplay
      split at hDisplay
      · cases hDisplay
      · rename_i hLarge
        exact not_lt.mp hLarge
  | collection node => trivial
  | _ => cases hDisplay

theorem ofKind_eq_unshown {kind : Value} {fault : Yaml.Fault} :
    EntryError.ofKind contents kind = .unshownKind fault ↔ contents.display kind = .error fault := by
  rw [EntryError.ofKind]
  cases contents.display kind with
  | ok shown => exact iff_of_false nofun nofun
  | error other => simp

theorem entryKind_eq_unshown {fault : Yaml.Fault} :
    entryKind contents fields = .error (.unshownKind fault) ↔
      ∃ kind, Value.field? fields "kind" = some kind ∧ contents.display kind = .error fault := by
  rcases entryKind_cases contents fields with
    ⟨hField, hKind⟩ | ⟨kind, hField, hKind⟩ | ⟨value, hField, _, hKind⟩
  · rw [hKind, hField]
    exact iff_of_false nofun nofun
  · rw [hKind, hField]
    refine iff_of_false nofun ?_
    rintro ⟨_, hSame, hDisplay⟩
    cases hSame
    cases hDisplay
  · rw [hKind, hField]
    simp [ofKind_eq_unshown]

end Fields

section Judging

/-- The source of an entry, or what is wrong with it. -/
def judged (contents : Contents) : Option Fields → Except EntryError Source
  | none => .error .notAMapping
  | some fields => do
    let url ← entryUrl fields
    let name ← entryName fields
    let kind ← entryKind contents fields
    return .ofUrl url name kind

theorem ofEntry_eq (entry : Value) : ofEntry contents entry = judged contents (mapping? contents entry) := by
  rw [ofEntry, mapping?]
  cases contents.collection? entry with
  | none => rfl
  | some collection => cases collection <;> rfl

theorem isOk_judged : (judged contents entry).isOk = true ↔ IsValidEntry entry := by
  cases entry with
  | none => exact iff_of_false nofun nofun
  | some fields =>
      simp only [judged, isOk_bind, isOk_pure, and_true, exists_and_right, ← isOk_iff, isOk_entryUrl,
        isOk_entryName, isOk_entryKind, IsValidEntry, Option.some.injEq, exists_eq_left']
      constructor
      · rintro ⟨hUrl, hName, hKind⟩
        exact ⟨hUrl, hName, hKind⟩
      · rintro ⟨hUrl, hName, hKind⟩
        exact ⟨hUrl, hName, hKind⟩

theorem describes_of_judged (hJudged : judged contents entry = .ok source) :
    ∃ fields, entry = some fields ∧ Describes fields source := by
  cases entry with
  | none => cases hJudged
  | some fields =>
      obtain ⟨url, hUrl, hRest⟩ := bind_eq_ok.mp hJudged
      obtain ⟨name, hName, hRest⟩ := bind_eq_ok.mp hRest
      obtain ⟨kind, hKind, hMade⟩ := bind_eq_ok.mp hRest
      obtain rfl := Except.ok.inj hMade
      exact ⟨fields, rfl, ⟨url, (entryUrl_eq_ok.mp hUrl).1, rfl⟩, entryName_some hName,
        entryKind_eq_repository hKind⟩

theorem entryUrl_ne_unshown (fault : Yaml.Fault) :
    entryUrl fields ≠ .error (.unshownKind fault) := by
  rw [entryUrl]
  split
  · split <;> simp
  · simp

theorem entryName_ne_unshown (fault : Yaml.Fault) :
    entryName fields ≠ .error (.unshownKind fault) := by
  rw [entryName]
  split <;> simp

theorem judged_eq_unshown {fault : Yaml.Fault} : judged contents entry = .error (.unshownKind fault) ↔
    ∃ fields, entry = some fields ∧ HasUnshownKind contents fields fault := by
  cases entry with
  | none => exact iff_of_false nofun nofun
  | some fields =>
      simp only [judged, bind_eq_error, entryUrl_ne_unshown, entryName_ne_unshown, false_or,
        entryKind_eq_unshown, Option.some.injEq, exists_eq_left']
      constructor
      · rintro ⟨url, hUrl, name, hName, hKind | ⟨_, _, hMade⟩⟩
        · exact ⟨isOk_entryUrl.mp (isOk_iff.mpr ⟨url, hUrl⟩), isOk_entryName.mp (isOk_iff.mpr ⟨name, hName⟩),
            hKind⟩
        · cases hMade
      · rintro ⟨hUrl, hName, hKind⟩
        obtain ⟨url, hUrl⟩ := isOk_iff.mp (isOk_entryUrl.mpr hUrl)
        obtain ⟨name, hName⟩ := isOk_iff.mp (isOk_entryName.mpr hName)
        exact ⟨url, hUrl, name, hName, .inl hKind⟩

/-- The sources of some entries, or what is wrong with the first that has none. -/
def judgeAll (contents : Contents) (index : Nat) :
    List (Option Fields) → Except (Nat × EntryError) (List Source)
  | [] => .ok []
  | entry :: rest =>
    match judged contents entry with
    | .error error => .error (index, error)
    | .ok source => (judgeAll contents (index + 1) rest).map (source :: ·)

theorem ofEntries_eq (contents : Contents) (index : Nat) (entries : List Value) :
    ofEntries contents index entries =
      judgeAll contents index (entries.map (mapping? contents)) := by
  induction entries generalizing index with
  | nil => rfl
  | cons entry rest ih =>
      rw [ofEntries, ofEntry_eq, ih, List.map_cons]
      rfl

theorem ofDocument_eq (document : Document) : ofDocument document =
    match entries? document with
    | none => .error .notAList
    | some entries => (judgeAll document.contents 0 entries).mapError fun (index, error) =>
        .entry index error := by
  rw [ofDocument, entries?]
  cases document.root with
  | collection node =>
      cases hFound : document.contents.collection? (.collection node) with
      | none => rfl
      | some collection =>
          cases collection with
          | list entries => simp only [ofEntries_eq]
          | pairs pairs => cases pairs <;> rfl
          | mapping | set => rfl
  | _ => rfl

theorem judgeAll_eq_ok {entries : List (Option Fields)} {index : Nat} :
    judgeAll contents index entries = .ok sources ↔
      List.Forall₂ (fun entry source => judged contents entry = .ok source) entries sources := by
  induction entries generalizing index sources with
  | nil =>
      rw [judgeAll, List.forall₂_nil_left_iff]
      exact ⟨fun hNone => (Except.ok.inj hNone).symm, fun hNone => congrArg Except.ok hNone.symm⟩
  | cons entry rest ih =>
      rw [judgeAll, List.forall₂_cons_left_iff]
      cases hJudged : judged contents entry with
      | error error => exact iff_of_false nofun nofun
      | ok source =>
          dsimp only
          constructor
          · intro hAll
            cases hRest : judgeAll contents (index + 1) rest with
            | error fault =>
                rw [hRest] at hAll
                cases hAll
            | ok later =>
                rw [hRest] at hAll
                cases hAll
                exact ⟨source, later, rfl, ih.mp hRest, rfl⟩
          · rintro ⟨_, later, hSame, hLater, rfl⟩
            cases hSame
            rw [ih.mpr hLater]
            rfl

theorem judgeAll_cons_eq_error {first : Option Fields} {rest : List (Option Fields)}
    {index position : Nat} {error : EntryError} :
    judgeAll contents index (first :: rest) = .error (position, error) ↔
      judged contents first = .error error ∧ index = position ∨
      (judged contents first).isOk = true ∧
        judgeAll contents (index + 1) rest = .error (position, error) := by
  rw [judgeAll]
  cases judged contents first with
  | error fault => simp [Except.isOk, Except.toBool, and_comm]
  | ok source => cases judgeAll contents (index + 1) rest <;> simp [Except.map, Except.isOk, Except.toBool]

/-- The error is that of the first entry that has one. -/
theorem judgeAll_eq_error {entries : List (Option Fields)} {index position : Nat} {error : EntryError} :
    judgeAll contents index entries = .error (position, error) ↔ ∃ before entry after,
      entries = before ++ entry :: after ∧ index + before.length = position ∧
        (∀ earlier ∈ before, (judged contents earlier).isOk = true) ∧
        judged contents entry = .error error := by
  induction entries generalizing index with
  | nil => simp [judgeAll]
  | cons first rest ih =>
      rw [judgeAll_cons_eq_error, ih]
      constructor
      · rintro (⟨hError, rfl⟩ | ⟨hOk, before, entry, after, rfl, rfl, hBefore, hEntry⟩)
        · exact ⟨[], first, rest, rfl, rfl, List.forall_mem_nil _, hError⟩
        · refine ⟨first :: before, entry, after, rfl, ?_, List.forall_mem_cons.mpr ⟨hOk, hBefore⟩, hEntry⟩
          rw [List.length_cons]
          omega
      · rintro ⟨before, entry, after, hEntries, rfl, hBefore, hEntry⟩
        cases before with
        | nil =>
            cases hEntries
            exact .inl ⟨hEntry, rfl⟩
        | cons earlier more =>
            cases hEntries
            obtain ⟨hOk, hMore⟩ := List.forall_mem_cons.mp hBefore
            refine .inr ⟨hOk, more, entry, after, rfl, ?_, hMore, hEntry⟩
            rw [List.length_cons]
            omega

theorem ofDocument_eq_ok : ofDocument document = .ok sources ↔ ∃ entries,
    entries? document = some entries ∧
      List.Forall₂ (fun entry source => judged document.contents entry = .ok source) entries sources := by
  rw [ofDocument_eq]
  cases entries? document with
  | none => exact iff_of_false nofun nofun
  | some entries => simp [mapError_eq_ok, judgeAll_eq_ok]

theorem ofDocument_eq_error {error : Error} : ofDocument document = .error error ↔
    (entries? document = none ∧ error = .notAList) ∨ ∃ index entry fault,
      IsFirstInvalid document index entry ∧ judged document.contents entry = .error fault ∧
        error = .entry index fault := by
  rw [ofDocument_eq]
  cases hEntries : entries? document with
  | none =>
      simp only [IsFirstInvalid, hEntries]
      simp [eq_comm]
  | some entries =>
      dsimp only
      constructor
      · intro hError
        obtain ⟨⟨index, fault⟩, hFault, rfl⟩ := mapError_eq_error.mp hError
        obtain ⟨before, entry, after, rfl, hIndex, hBefore, hEntry⟩ := judgeAll_eq_error.mp hFault
        refine .inr ⟨index, entry, fault, ⟨before, after, hEntries, by omega, ?_, ?_⟩, hEntry, rfl⟩
        · intro earlier hEarlier
          exact isOk_judged.mp (hBefore earlier hEarlier)
        · intro hValid
          have hOk : (judged document.contents entry).isOk = true := isOk_judged.mpr hValid
          rw [hEntry] at hOk
          cases hOk
      · rintro (⟨hNone, _⟩ | ⟨index, entry, fault, ⟨before, after, hList, rfl, hBefore, _⟩, hEntry, rfl⟩)
        · cases hNone
        · rw [hEntries] at hList
          cases hList
          refine mapError_eq_error.mpr ⟨(before.length, fault), ?_, rfl⟩
          refine judgeAll_eq_error.mpr ⟨before, entry, after, rfl, Nat.zero_add _, ?_, hEntry⟩
          intro earlier hEarlier
          exact isOk_judged.mpr (hBefore earlier hEarlier)

end Judging

/-- Registering sources in turn takes those in of which no other has the address. -/
theorem foldl_add_eq_distinct (catalog : Catalog) (sources : List Source) :
    sources.foldl add catalog =
      { catalog with user := catalog.user ++ distinct (catalog.sources.map (·.url)) sources } := by
  induction sources generalizing catalog with
  | nil => simp [distinct]
  | cons source rest ih =>
      rw [List.foldl_cons, ih, distinct]
      by_cases hThere : catalog.contains source = true
      · have hSeen : (catalog.sources.map (·.url)).contains source.url = true :=
          List.contains_iff_mem.mpr (contains_iff.mp hThere)
        rw [add, if_pos hThere, if_pos hSeen]
      · have hNew : ¬ (catalog.sources.map (·.url)).contains source.url = true :=
          fun hSeen => hThere (contains_iff.mpr (List.contains_iff_mem.mp hSeen))
        have hUrls : ∀ url, url ∈ (catalog.add source).sources.map (·.url) ↔
            url ∈ source.url :: catalog.sources.map (·.url) := by
          rw [sources_add (Bool.eq_false_iff.mpr hThere)]
          simp [or_comm]
        rw [if_neg hNew, distinct_congr hUrls, add, if_neg hThere]
        simp

theorem ofSources_eq_firstHolders (path : Option Path) (includeBuiltin : Bool)
    (sources : List Source) : ofSources path includeBuiltin sources =
      { fresh path includeBuiltin with
        user := firstHolders ((fresh path includeBuiltin).builtin.map (·.url)) sources } := by
  rw [ofSources, foldl_add_eq_distinct, distinct_eq_firstHolders, Catalog.sources]
  simp [fresh]

section Result

theorem ofError_eq_catalog {error other : Error} : FileError.ofError error = .catalog other ↔
    error = other ∧ ∀ index fault, error ≠ .entry index (.unshownKind fault) := by
  unfold FileError.ofError
  split
  · simp
  · rename_i hOther
    simpa using fun _ => hOther

theorem ofError_eq_value {error : Error} {fault : Yaml.Fault} :
    FileError.ofError error = .value fault ↔ ∃ index, error = .entry index (.unshownKind fault) := by
  unfold FileError.ofError
  split
  · simp [eq_comm]
  · rename_i hOther
    exact iff_of_false nofun fun ⟨index, hSame⟩ => hOther index fault hSame

/-- The catalog of a sources file with a value, or what goes wrong. -/
def resultOf (path : Path) (includeBuiltin : Bool) (document : Document) : Except FileError Catalog :=
  ((ofDocument document).mapError .ofError).map (ofSources (some path) includeBuiltin)

theorem resultOf_eq_ok {catalog : Catalog} : resultOf path includeBuiltin document = .ok catalog ↔
    ∃ sources, ofDocument document = .ok sources ∧
      ofSources (some path) includeBuiltin sources = catalog := by
  rw [resultOf]
  cases ofDocument document <;> simp [Except.mapError, Except.map]

theorem resultOf_eq_error {fault : FileError} : resultOf path includeBuiltin document = .error fault ↔
    ∃ error, ofDocument document = .error error ∧ .ofError error = fault := by
  rw [resultOf]
  cases ofDocument document <;> simp [Except.mapError, Except.map]

theorem IsFirstInvalid.invalid {index : Nat} (hFirst : IsFirstInvalid document index entry) :
    ¬ IsValidEntry entry := by
  obtain ⟨_, _, _, _, _, hInvalid⟩ := hFirst
  exact hInvalid

theorem exists_fault (contents : Contents) (hInvalid : ¬ IsValidEntry entry) :
    ∃ fault, judged contents entry = .error fault := by
  cases hJudged : judged contents entry with
  | error fault => exact ⟨fault, rfl⟩
  | ok source => exact absurd (isOk_judged.mp (isOk_iff.mpr ⟨source, hJudged⟩)) hInvalid

theorem rejected_iff : (∃ error, resultOf path includeBuiltin document = .error (.catalog error)) ↔
    entries? document = none ∨ ∃ index entry, IsFirstInvalid document index entry ∧
      ∀ fields fault, entry = some fields → ¬ HasUnshownKind document.contents fields fault := by
  simp only [resultOf_eq_error, ofError_eq_catalog]
  constructor
  · rintro ⟨_, error, hError, rfl, hShown⟩
    rcases ofDocument_eq_error.mp hError with ⟨hNone, _⟩ | ⟨index, entry, fault, hFirst, hEntry, rfl⟩
    · exact .inl hNone
    · refine .inr ⟨index, entry, hFirst, fun fields other hSome hUnshown => ?_⟩
      have hJudged := judged_eq_unshown.mpr ⟨fields, hSome, hUnshown⟩
      rw [hEntry] at hJudged
      cases hJudged
      exact hShown index other rfl
  · rintro (hNone | ⟨index, entry, hFirst, hShown⟩)
    · exact ⟨.notAList, .notAList, ofDocument_eq_error.mpr (.inl ⟨hNone, rfl⟩), rfl, nofun⟩
    · obtain ⟨fault, hFault⟩ := exists_fault document.contents hFirst.invalid
      refine ⟨_, _, ofDocument_eq_error.mpr (.inr ⟨index, entry, fault, hFirst, hFault, rfl⟩), rfl, ?_⟩
      rintro _ other hSame
      cases hSame
      obtain ⟨fields, hSome, hUnshown⟩ := judged_eq_unshown.mp hFault
      exact hShown fields other hSome hUnshown

theorem unshown_iff {fault : Yaml.Fault} :
    resultOf path includeBuiltin document = .error (.value fault) ↔ ∃ index fields,
      IsFirstInvalid document index (some fields) ∧
        HasUnshownKind document.contents fields fault := by
  simp only [resultOf_eq_error, ofError_eq_value]
  constructor
  · rintro ⟨_, hError, index, rfl⟩
    rcases ofDocument_eq_error.mp hError with ⟨_, hSame⟩ | ⟨_, entry, _, hFirst, hEntry, hSame⟩
    · cases hSame
    · cases hSame
      obtain ⟨fields, rfl, hUnshown⟩ := judged_eq_unshown.mp hEntry
      exact ⟨index, fields, hFirst, hUnshown⟩
  · rintro ⟨index, fields, hFirst, hUnshown⟩
    have hEntry := judged_eq_unshown.mpr ⟨fields, rfl, hUnshown⟩
    exact ⟨_, ofDocument_eq_error.mpr (.inr ⟨index, _, _, hFirst, hEntry, rfl⟩), index, rfl⟩

theorem accepted_iff : (∃ catalog, resultOf path includeBuiltin document = .ok catalog) ↔
    ∃ entries, entries? document = some entries ∧ ∀ entry ∈ entries, IsValidEntry entry := by
  simp only [resultOf_eq_ok, ofDocument_eq_ok]
  constructor
  · rintro ⟨_, sources, ⟨entries, hEntries, hJudged⟩, _⟩
    have hAll : (entries.mapM (judged document.contents)).isOk = true :=
      isOk_iff.mpr ⟨sources, mapM_eq_ok.mpr hJudged⟩
    exact ⟨entries, hEntries, fun entry hEntry => isOk_judged.mp (isOk_mapM.mp hAll entry hEntry)⟩
  · rintro ⟨entries, hEntries, hValid⟩
    have hAll : (entries.mapM (judged document.contents)).isOk = true :=
      isOk_mapM.mpr fun entry hEntry => isOk_judged.mpr (hValid entry hEntry)
    obtain ⟨sources, hSources⟩ := isOk_iff.mp hAll
    exact ⟨_, sources, ⟨entries, hEntries, mapM_eq_ok.mp hSources⟩, rfl⟩

/-- A sources file with a value is judged by its entries. -/
theorem resultOf_isJudged (path : Path) (includeBuiltin : Bool) (document : Document) :
    IsJudged path includeBuiltin document (resultOf path includeBuiltin document) := by
  refine ⟨rejected_iff, ?_, fun _ => unshown_iff, ?_, accepted_iff, ?_⟩
  · intro error hResult
    obtain ⟨cause, hCause, hOf⟩ := resultOf_eq_error.mp hResult
    obtain ⟨rfl, _⟩ := ofError_eq_catalog.mp hOf
    rcases ofDocument_eq_error.mp hCause with ⟨hNone, rfl⟩ | ⟨index, entry, _, hFirst, _, rfl⟩
    · exact .inl ⟨rfl, hNone⟩
    · exact .inr ⟨index, entry, rfl, hFirst⟩
  · intro fault hResult
    obtain ⟨index, fields, hFirst, hUnshown⟩ := unshown_iff.mp hResult
    obtain ⟨kind, hKind, hDisplay⟩ := hUnshown.kind
    exact ⟨index, fields, kind, hFirst, hKind, isLarge_of_display hDisplay⟩
  · intro catalog hResult
    obtain ⟨sources, hSources, rfl⟩ := resultOf_eq_ok.mp hResult
    obtain ⟨entries, hEntries, hJudged⟩ := ofDocument_eq_ok.mp hSources
    exact ⟨entries, sources, hEntries, hJudged.imp fun _ _ => describes_of_judged,
      ofSources_eq_firstHolders _ _ _⟩

end Result

/-- Whatever value a sources file holds: there is an error of the catalog just where the value is no list,
or an entry is not valid, and this error has the position of the first such entry. It may only be that its
kind cannot be shown; this is an error of another sort. Otherwise the sources of the user are those of the
entries, for each address the first. -/
theorem sources_file_isJudged {files : Files} {bytes : List UInt8} {chars : List Char}
    (hFound : files.find path = .ok (.file bytes)) (hChars : Text.decodeUtf8? bytes = some chars)
    (hDocument : Document.ofText (String.ofList chars) = .ok document) :
    IsJudged path includeBuiltin document (load files path includeBuiltin) := by
  have hLoad : load files path includeBuiltin = resultOf path includeBuiltin document := by
    rw [load, hFound]
    simp only [parse, hChars, hDocument]
    rfl
  rw [hLoad]
  exact resultOf_isJudged path includeBuiltin document

/-- The text of a sources file with two entries at one address, and one at a directory. -/
def doubledText : List Char :=
  List.flatMap String.toList ["- url: a\n", "- url: b/\n", "  kind: repository\n", "- url: a\n"]

/-- The one file that there is, with this text. -/
def doubledFiles : Files where
  entries := [(Path.ofText "sources.yaml", Load.asciiBytes doubledText)]
  made := []

/-- Of the two entries at one address the first stays, and the directory is that of an index file. -/
theorem doubledFiles_isJudged : ∃ document,
    doubledFiles.find (Path.ofText "sources.yaml") = .ok (.file (Load.asciiBytes doubledText)) ∧
    Text.decodeUtf8? (Load.asciiBytes doubledText) = some doubledText ∧
    Document.ofText (String.ofList doubledText) = .ok document ∧
    ((load doubledFiles (Path.ofText "sources.yaml") true).toOption.map
      (·.user.map (·.url))) = some ["a", "b/repository.xml"] ∧
    IsJudged (Path.ofText "sources.yaml") true document
      (load doubledFiles (Path.ofText "sources.yaml") true) := by
  have hFound : doubledFiles.find (Path.ofText "sources.yaml") =
      .ok (.file (Load.asciiBytes doubledText)) := by
    decide +kernel
  have hChars : Text.decodeUtf8? (Load.asciiBytes doubledText) = some doubledText := by
    decide +kernel
  have hOk : (Document.ofText (String.ofList doubledText)).isOk = true := by decide +kernel
  obtain ⟨document, hDocument⟩ := isOk_iff.mp hOk
  exact ⟨document, hFound, hChars, hDocument, by decide +kernel,
    sources_file_isJudged hFound hChars hDocument⟩

/-- The value of a sources file whose one entry has an integer as its kind. -/
def numberedDocument (kind : Int) : Document where
  root := .collection 0
  contents := #[some (.list [.collection 1]),
    some (.mapping [(.text "url", .text "a"), (.text "kind", .int kind)])]

/-- The integer that is written with 3572 hexadecimal digits `F`. -/
def largeKind : Int :=
  Int.ofNat (Nat.pow 16 3572 - 1)

/-- An integer that is read from a file may be too large to be shown. As a kind it is not valid, but what
goes wrong then is no error of the catalog. -/
theorem large_kind_not_rejected :
    Value.ofInt (String.ofList ('0' :: 'x' :: List.replicate 3572 'F')) = .ok (.int largeKind) ∧
    IsFirstInvalid (numberedDocument largeKind) 0
      (some [(.text "url", .text "a"), (.text "kind", .int largeKind)]) ∧
    resultOf (Path.ofText "sources.yaml") true (numberedDocument largeKind) =
      .error (.value (.outOfRange Text.tooLargeToShow)) := by
  have hLarge : ¬ largeKind.natAbs < Nat.pow 10 Text.digitLimit := by decide +kernel
  have hRead : Value.ofInt (String.ofList ('0' :: 'x' :: List.replicate 3572 'F')) =
      .ok (.int largeKind) := by
    rw [Value.ofInt, String.toList_ofList]
    decide +kernel
  generalize largeKind = kind at *
  have hUnshown : HasUnshownKind (numberedDocument kind).contents
      [(.text "url", .text "a"), (.text "kind", .int kind)]
      (.outOfRange Text.tooLargeToShow) := by
    refine ⟨⟨"a", by simp [Value.field?, Value.sameKey_text], by decide⟩,
      .inl (by simp [Value.field?, Value.sameKey_text]),
      .int kind, by simp [Value.field?, Value.sameKey_text], ?_⟩
    rw [display_int, if_neg hLarge]
  have hFirst : IsFirstInvalid (numberedDocument kind) 0
      (some [(.text "url", .text "a"), (.text "kind", .int kind)]) := by
    refine ⟨[], [], rfl, rfl, List.forall_mem_nil _, ?_⟩
    rintro ⟨fields, hSame, hValid⟩
    cases hSame
    exact hUnshown.not_hasKind hValid.kind
  exact ⟨hRead, hFirst, unshown_iff.mpr ⟨0, _, hFirst, hUnshown⟩⟩

end SdkFeed.Catalog
