import SdkFeed.Proofs.Catalog.Entries
import SdkFeed.Proofs.Command.Editing

/-! Registering a source in any sources file that is accepted. The file that the command leaves is accepted
again, unless the address that it was given is blank: such a source is written like any other one, but
its entry counts as one without an address. -/
namespace SdkFeed

open SdkFeed.Console

variable {files stored : Files} {path : Path} {catalog : Catalog} {source : Source}
  {sources : List Source} {url : String} {name : Option String} {kind : Feed.Kind}

namespace Source

/-- A source as it comes from a sources file: at an address that is not blank, and with no empty name. -/
def IsListed (source : Source) : Prop :=
  source.IsGiven ∧ source.tidied = source

theorem normalUrl_of_blank (kind : Feed.Kind) (hBlank : Text.trim url = "") :
    normalUrl kind url = "" := by
  rw [normalUrl, hBlank]
  exact if_neg (by decide)

end Source

namespace Catalog

open SdkFeed.Yaml

variable {contents : Contents} {entry : Value} {document : Document} {bytes : List UInt8}

theorem isListed_of_judged {entry : Option Fields} (hJudged : judged contents entry = .ok source) :
    source.IsListed := by
  cases entry with
  | none => cases hJudged
  | some fields =>
      obtain ⟨url, hUrl, hRest⟩ := bind_eq_ok.mp hJudged
      obtain ⟨name, hName, hRest⟩ := bind_eq_ok.mp hRest
      obtain ⟨kind, _, hMade⟩ := bind_eq_ok.mp hRest
      obtain rfl := Except.ok.inj hMade
      have hFilled : (Text.trim url).isEmpty = false := by simpa using (entryUrl_eq_ok.mp hUrl).2
      have hTidy : name.filter (!·.isEmpty) = name := by
        cases name with
        | none => rfl
        | some words =>
            rw [Option.filter_some, if_pos]
            simpa using ((entryName_some hName words).mp rfl).2
      refine ⟨⟨url, name, kind, hFilled, rfl⟩, ?_⟩
      rw [Source.tidied, Source.ofUrl, hTidy]

theorem isListed_of_ofDocument (hSources : ofDocument document = .ok sources) :
    ∀ source ∈ sources, source.IsListed := by
  obtain ⟨entries, hRoot, hEntries⟩ := ofDocument_eq_ok.mp hSources
  clear hSources hRoot
  induction hEntries with
  | nil => exact nofun
  | cons hJudged _ ih => exact List.forall_mem_cons.mpr ⟨isListed_of_judged hJudged, ih⟩

theorem isListed_of_parse (hParse : parse path bytes = .ok sources) :
    ∀ source ∈ sources, source.IsListed := by
  rw [parse] at hParse
  split at hParse
  · rename_i chars _
    split at hParse
    · cases hParse
    · cases hParse
    · exact isListed_of_ofDocument (mapError_eq_ok.mp hParse)
  · cases hParse

/-- What holds of sources that are registered in turn holds of all sources of the user, if it held of
those that were there. -/
theorem forall_user_foldl_add {holds : Source → Prop} (hUser : ∀ source ∈ catalog.user, holds source)
    (hSources : ∀ source ∈ sources, holds source) :
    ∀ source ∈ (sources.foldl add catalog).user, holds source :=
  List.foldlRecOn (motive := fun catalog => ∀ source ∈ catalog.user, holds source) sources add hUser
    fun _ hUser source hSource => forall_user_add hUser (hSources source hSource)

theorem isEdited_foldl_add (hEdited : IsEdited path catalog)
    (hSources : ∀ source ∈ sources, source.IsGiven) :
    IsEdited path (sources.foldl add catalog) :=
  List.foldlRecOn sources add hEdited fun _ hEdited source hSource =>
    hEdited.add (hSources source hSource)

theorem IsEdited.tidied_eq (hEdited : IsEdited path catalog)
    (hTidy : ∀ source ∈ catalog.user, source.tidied = source) : catalog.tidied = catalog := by
  have hUser : catalog.user.map Source.tidied = catalog.user := by
    rw [List.map_congr_left hTidy, List.map_id']
  have hBuiltin : catalog.builtin.map Source.tidied = catalog.builtin := by
    rw [hEdited.rest]
    exact congrArg builtin (tidied_fresh (some path) true)
  rw [tidied, hUser, hBuiltin]

/-- A catalog that was loaded could have been made by commands, and it has no empty names. -/
theorem isEdited_of_load (hLoad : load files path true = .ok catalog) :
    IsEdited path catalog ∧ catalog.tidied = catalog := by
  rw [load] at hLoad
  split at hLoad
  · cases hLoad
  · obtain rfl := Except.ok.inj hLoad
    exact ⟨isEdited_fresh path, tidied_fresh _ _⟩
  · cases hLoad
  · rename_i bytes _
    cases hParse : parse path bytes with
    | error error =>
        rw [hParse] at hLoad
        cases hLoad
    | ok sources =>
        rw [hParse] at hLoad
        obtain rfl := Except.ok.inj hLoad
        have hListed := isListed_of_parse hParse
        have hEdited : IsEdited path (ofSources (some path) true sources) :=
          isEdited_foldl_add (isEdited_fresh path) fun source hSource => (hListed source hSource).1
        have hTidy : ∀ source ∈ (ofSources (some path) true sources).user, source.tidied = source :=
          forall_user_foldl_add (fun _ hNone => absurd hNone List.not_mem_nil)
            fun source hSource => (hListed source hSource).2
        exact ⟨hEdited, hEdited.tidied_eq hTidy⟩

theorem IsEdited.trim_url (hEdited : IsEdited path catalog) :
    ∀ source ∈ catalog.sources, (Text.trim source.url).isEmpty = false := by
  intro source hSource
  rcases List.mem_append.mp hSource with hBuiltin | hUser
  · rw [hEdited.rest] at hBuiltin
    obtain rfl := List.mem_singleton.mp hBuiltin
    decide
  · exact (hEdited.given source hUser).url

/-- A source at a blank address is always new. -/
theorem IsEdited.not_contains_blank (hEdited : IsEdited path catalog) (hBlank : Text.trim url = "") :
    catalog.contains (.ofUrl url name kind) = false := by
  rw [Bool.eq_false_iff, Ne, contains_iff, Source.ofUrl_url, Source.normalUrl_of_blank kind hBlank]
  intro hThere
  obtain ⟨source, hSource, hUrl⟩ := List.mem_map.mp hThere
  have hFilled := hEdited.trim_url source hSource
  rw [hUrl] at hFilled
  exact absurd hFilled (by decide)

/-- The entry of a source without an address is refused. -/
theorem ofEntry_blank (hBlank : source.url = "")
    (hEntry : contents.collection? entry = some (.mapping (fieldsOf (record source)))) :
    ofEntry contents entry = .error .missingUrl := by
  have hUrl : entryUrl (fieldsOf (record source)) = .error .missingUrl := by
    rw [entryUrl, fieldsOf, Value.field?_texts, (lookup_record source).1, hBlank]
    exact if_pos (by decide)
  rw [ofEntry, hEntry]
  dsimp only
  rw [hUrl]
  rfl

/-- Behind entries of sources that were given, it is the entry that is told. -/
theorem ofEntries_blank {entries : List Value} (index : Nat)
    (hGiven : ∀ source ∈ sources, source.IsGiven) (hBlank : source.url = "")
    (hEntries : List.Forall₂ (fun entry record =>
      contents.collection? entry = some (.mapping (fieldsOf record))) entries
        (sources.map record ++ [record source])) :
    ofEntries contents index entries = .error (index + sources.length, .missingUrl) := by
  induction sources generalizing entries index with
  | nil =>
      obtain ⟨entry, later, hEntry, _, rfl⟩ := List.forall₂_cons_right_iff.mp hEntries
      rw [ofEntries, ofEntry_blank hBlank hEntry]
      rfl
  | cons first rest ih =>
      obtain ⟨hHere, hRest⟩ := List.forall_mem_cons.mp hGiven
      obtain ⟨entry, later, hEntry, hLater, rfl⟩ := List.forall₂_cons_right_iff.mp hEntries
      rw [ofEntries, ofEntry_record hHere hEntry]
      dsimp only
      rw [ih (index + 1) hRest hLater, List.length_cons, Nat.add_right_comm, Nat.add_assoc]
      rfl

/-- What is written for a catalog whose last source has no address is refused. -/
theorem parse_text_blank (path : Path) (hUser : catalog.user = sources ++ [source])
    (hGiven : ∀ source ∈ sources, source.IsGiven) (hBlank : source.url = "")
    (hReadBack : IsReadBack catalog.records) :
    parse path catalog.text.toUTF8.toList =
      .error (.catalog (.entry sources.length .missingUrl)) := by
  obtain ⟨document, entries, hDocument, hRoot, hEntries⟩ := exists_of_isReadBack hReadBack
  rw [records, hUser, List.map_append] at hEntries
  have hRefused : ofDocument document = .error (.entry sources.length .missingUrl) := by
    cases hNode : document.root with
    | collection node =>
        rw [ofDocument, hRoot, hNode]
        dsimp only
        rw [ofEntries_blank 0 hGiven hBlank hEntries, Nat.zero_add]
        rfl
    | _ =>
        rw [hNode] at hRoot
        cases hRoot
  rw [parse, Text.decodeUtf8_toUTF8]
  simp only [String.ofList_toList, text, hDocument]
  rw [hRefused]
  rfl

end Catalog

open Catalog (IsEdited IsReadBack)

variable {around : Surroundings} {settings : Settings}

/-- A catalog that could not be written makes the command crash. -/
theorem saveCatalog_files {message : String}
    (hDone : (Command.saveCatalog files path catalog message).ending.status = 0) :
    files.write path catalog.text.toUTF8.toList =
      ((Command.saveCatalog files path catalog message).files, .ok ()) := by
  cases hWrite : files.write path catalog.text.toUTF8.toList with
  | mk stored result =>
      cases result with
      | ok =>
          rw [saveCatalog_eq hWrite]
          rfl
      | error error =>
          have hPath : (some path <|> catalog.path) = some path := rfl
          simp only [Command.saveCatalog, Catalog.save, hPath, hWrite] at hDone
          cases hDone

/-- Registering a source leaves the files as they are if it is registered already, and writes the catalog
with it otherwise. -/
theorem addSource_files
    (hLoad : Catalog.load around.files settings.sourcesPath true = .ok catalog)
    (hDone : ((Command.addSource url name kind).run around settings).ending.status = 0) :
    (catalog.contains (.ofUrl url name kind) = true ∧
        ((Command.addSource url name kind).run around settings).files = around.files) ∨
      (catalog.contains (.ofUrl url name kind) = false ∧
        around.files.write settings.sourcesPath (catalog.add (.ofUrl url name kind)).text.toUTF8.toList =
          (((Command.addSource url name kind).run around settings).files, .ok ())) := by
  have hRun : (Command.addSource url name kind).run around settings =
      Command.addAnswer around.files settings.sourcesPath (.ofUrl url name kind) catalog := by
    simp only [Command.run, Command.withCatalog, hLoad]
  rw [hRun] at hDone ⊢
  rw [Command.addAnswer] at hDone ⊢
  cases hThere : catalog.contains (.ofUrl url name kind) with
  | true => exact .inl ⟨rfl, rfl⟩
  | false =>
      rw [hThere, if_neg Bool.false_ne_true] at hDone
      exact .inr ⟨rfl, saveCatalog_files hDone⟩

/-- Registering a source in a sources file that is accepted, whatever is in it. At an address that is not
blank, the file that is left is accepted, and it has just the sources there were and the one that was
given, if it was new. At a blank address it is refused from then on, for the entry of this source. The
records of the catalog must be read as they are written. -/
theorem added_source_isAccepted
    (hLoad : Catalog.load around.files settings.sourcesPath true = .ok catalog)
    (hReadBack : IsReadBack (catalog.add (.ofUrl url name kind)).records)
    (hDone : ((Command.addSource url name kind).run around settings).ending.status = 0) :
    (Text.trim url ≠ "" →
      Catalog.load ((Command.addSource url name kind).run around settings).files
          settings.sourcesPath true =
        .ok (catalog.add (.ofUrl url name kind)).tidied) ∧
    (Text.trim url = "" →
      Catalog.load ((Command.addSource url name kind).run around settings).files
          settings.sourcesPath true =
        .error (.catalog (.entry catalog.user.length .missingUrl))) := by
  obtain ⟨hEdited, hTidied⟩ := Catalog.isEdited_of_load hLoad
  obtain ⟨hThere, hFiles⟩ | ⟨hNew, hWrite⟩ := addSource_files hLoad hDone
  · have hSame : catalog.add (.ofUrl url name kind) = catalog := if_pos hThere
    rw [hFiles, hSame, hTidied]
    refine ⟨fun _ => hLoad, fun hBlank => ?_⟩
    have hNew : catalog.contains (.ofUrl url name kind) = false := hEdited.not_contains_blank hBlank
    rw [hThere] at hNew
    cases hNew
  · have hFound := Files.find_write hWrite
    constructor
    · intro hFilled
      have hGiven : (Source.ofUrl url name kind).IsGiven :=
        ⟨url, name, kind, by simpa using hFilled, rfl⟩
      exact (hEdited.add hGiven).load_eq hFound hReadBack
    · intro hBlank
      have hUser : (catalog.add (.ofUrl url name kind)).user =
          catalog.user ++ [.ofUrl url name kind] := by
        rw [Catalog.add, if_neg (by simp [hNew])]
      have hUrl : (Source.ofUrl url name kind).url = "" := by
        rw [Source.ofUrl_url, Source.normalUrl_of_blank kind hBlank]
      rw [Catalog.load, hFound]
      dsimp only
      rw [Catalog.parse_text_blank _ hUser hEdited.given hUrl hReadBack]
      rfl

/-- A user without files registers a source in a directory. -/
theorem newUser_source_isAccepted :
    Catalog.load newUser.files (Settings.standard newUser.home).sourcesPath true =
      .ok (Catalog.fresh (some (Settings.standard newUser.home).sourcesPath) true) ∧
    Catalog.load ((Command.addSource " http://b/ " none .addon).run newUser
        (Settings.standard newUser.home)).files (Settings.standard newUser.home).sourcesPath true =
      .ok ((Catalog.fresh (some (Settings.standard newUser.home).sourcesPath) true).add
        (.ofUrl " http://b/ " none .addon)).tidied := by
  have hMissing : newUser.files.find (Settings.standard newUser.home).sourcesPath = .ok .nothing := by
    decide +kernel
  have hLoad : Catalog.load newUser.files (Settings.standard newUser.home).sourcesPath true =
      .ok (Catalog.fresh (some (Settings.standard newUser.home).sourcesPath) true) := by
    rw [Catalog.load, hMissing]
  have hReadBack : IsReadBack ((Catalog.fresh (some (Settings.standard newUser.home).sourcesPath)
      true).add (.ofUrl " http://b/ " none .addon)).records := by
    decide +kernel
  have hDone : ((Command.addSource " http://b/ " none .addon).run newUser
      (Settings.standard newUser.home)).ending.status = 0 := by
    decide +kernel
  exact ⟨hLoad, (added_source_isAccepted hLoad hReadBack hDone).1 (by decide)⟩

/-- The same user registers a source at a blank address, and has no valid sources file from then on. -/
theorem blank_source_refused :
    (Catalog.load newUser.files (Settings.standard newUser.home).sourcesPath true).isOk = true ∧
      ((Command.addSource "" none .addon).run newUser
        (Settings.standard newUser.home)).ending.status = 0 ∧
      (Catalog.load ((Command.addSource "" none .addon).run newUser
        (Settings.standard newUser.home)).files (Settings.standard newUser.home).sourcesPath
          true).isOk = false := by
  decide +kernel

end SdkFeed
