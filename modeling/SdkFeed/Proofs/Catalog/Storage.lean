import SdkFeed.Catalog.File
import SdkFeed.Proofs.Catalog.History
import SdkFeed.Proofs.Files
import SdkFeed.Proofs.Text.Utf8

/-! The file of a catalog, written and read again. If records of texts are read as they were written, the
catalog comes back as it was, but that a source with an empty name comes back without one. -/
namespace SdkFeed

open SdkFeed.Feed (Kind)

namespace Source

variable {source : Source}

/-- A source with an empty name counted as none. -/
def tidied (source : Source) : Source :=
  { source with name := source.name.filter (!·.isEmpty) }

/-- A source as a user gives it, at an address that is not blank. -/
def IsGiven (source : Source) : Prop :=
  ∃ url name kind, (Text.trim url).isEmpty = false ∧ source = ofUrl url name kind

theorem IsGiven.isMade (hGiven : source.IsGiven) : source.IsMade := by
  obtain ⟨url, name, kind, _, rfl⟩ := hGiven
  exact isMade_ofUrl url name kind

/-- The address of a source that was given is not blank either. -/
theorem IsGiven.url (hGiven : source.IsGiven) : (Text.trim source.url).isEmpty = false := by
  rw [hGiven.isMade.isKept.trimmed]
  obtain ⟨url, name, kind, hUrl, rfl⟩ := hGiven
  rw [ofUrl_url, normalUrl]
  split
  · rw [Bool.eq_false_iff, Ne, String.isEmpty_iff]
    intro hNone
    have hChars := congrArg String.toList hNone
    rw [String.toList_append] at hChars
    exact Feed.Family.indexFile_ne_nil kind (List.append_eq_nil_iff.mp hChars).2
  · exact hUrl

theorem defaultDescription_filter (kind : Kind) (name : Option String) (url : String) :
    defaultDescription kind (name.filter (!·.isEmpty)) url = defaultDescription kind name url := by
  cases name with
  | none => rfl
  | some words =>
      by_cases hEmpty : words = ""
      · subst hEmpty
        rfl
      · rw [Option.filter_some, if_pos (by simpa using hEmpty)]

/-- Made once more at its own address, a source is the same. -/
theorem IsGiven.ofUrl_eq (hGiven : source.IsGiven) :
    ofUrl source.url source.tidied.name source.kind = source.tidied := by
  have hKept := hGiven.isMade.isKept
  obtain ⟨url, name, kind, _, rfl⟩ := hGiven
  have hUrl := hKept.normalUrl_eq kind
  rw [ofUrl_url] at hUrl
  simp only [ofUrl, tidied, hUrl, defaultDescription_filter]

end Source

namespace Yaml

deriving instance DecidableEq for Collection

/-- What the members of a document hold, if it is a list. -/
def Document.members? (document : Document) : Option (List (Option Collection)) :=
  match document.contents.collection? document.root with
  | some (.list members) => some (members.map document.contents.collection?)
  | _ => none

theorem Value.sameKey_text (a b : String) : (text a).sameKey (text b) = (b == a) := by
  show (text a == text b) = (b == a)
  rw [Bool.eq_iff_iff, beq_iff_eq, beq_iff_eq, text.injEq, eq_comm]

/-- A field is looked up in what was read as it would be in the record. -/
theorem Value.field?_texts (record : List (String × String)) (name : String) :
    field? (record.map fun field => (text field.1, text field.2)) name =
      (record.lookup name).map text := by
  rw [field?]
  induction record with
  | nil => rfl
  | cons field rest ih =>
      obtain ⟨key, value⟩ := field
      cases hKey : name == key with
      | true => simp [List.lookup_cons, hKey, sameKey_text]
      | false => simpa [List.lookup_cons, hKey, sameKey_text] using ih

end Yaml

namespace Catalog

open SdkFeed.Yaml

variable {contents : Contents} {entry : Value} {source : Source} {sources : List Source}
  {catalog : Catalog} {path : Path} {includeBuiltin : Bool}

/-- What a record of texts is read as. -/
def fieldsOf (record : List (String × String)) : List (Value × Value) :=
  record.map fun field => (.text field.1, .text field.2)

/-- Records of texts are written in such a way that they are read as they are. -/
def IsReadBack (records : List (List (String × String))) : Prop :=
  (Document.ofText (renderRecords records)).toOption.bind Document.members? =
    some (records.map fun record => some (.mapping (fieldsOf record)))

instance (records : List (List (String × String))) : Decidable (IsReadBack records) :=
  inferInstanceAs (Decidable (_ = _))

theorem exists_of_isReadBack {records : List (List (String × String))}
    (hReadBack : IsReadBack records) :
    ∃ document entries, Document.ofText (renderRecords records) = .ok document ∧
      document.contents.collection? document.root = some (.list entries) ∧
      List.Forall₂ (fun entry record =>
        document.contents.collection? entry = some (.mapping (fieldsOf record))) entries records := by
  rw [IsReadBack] at hReadBack
  cases hDocument : Document.ofText (renderRecords records) with
  | error fault =>
      rw [hDocument] at hReadBack
      cases hReadBack
  | ok document =>
      rw [hDocument] at hReadBack
      have hMembers : document.members? =
          some (records.map fun record => some (.mapping (fieldsOf record))) := hReadBack
      rw [Document.members?] at hMembers
      split at hMembers
      · rename_i entries hRoot
        refine ⟨document, entries, rfl, hRoot, ?_⟩
        have hSame := Option.some.inj hMembers
        rw [← List.forall₂_eq_eq_eq, List.forall₂_map_left_iff, List.forall₂_map_right_iff] at hSame
        exact hSame
      · cases hMembers

theorem lookup_record (source : Source) :
    (record source).lookup "url" = some source.url ∧
    (record source).lookup "name" = source.tidied.name ∧
    (record source).lookup "kind" = some source.kind.name := by
  have hRecord : record source = [("url", source.url), ("kind", source.kind.name)] ++
      (source.tidied.name.map (("name", ·))).toList := rfl
  rw [hRecord]
  cases source.tidied.name with
  | none => exact ⟨rfl, rfl, rfl⟩
  | some words => exact ⟨rfl, rfl, rfl⟩

/-- The entry of a source makes the source again. -/
theorem ofEntry_record (hGiven : source.IsGiven)
    (hEntry : contents.collection? entry = some (.mapping (fieldsOf (record source)))) :
    ofEntry contents entry = .ok source.tidied := by
  obtain ⟨hUrl, hName, hKind⟩ := lookup_record source
  have hUrlRead : entryUrl (fieldsOf (record source)) = .ok source.url := by
    rw [entryUrl, fieldsOf, Value.field?_texts, hUrl]
    simp [hGiven.url]
  have hNameRead : entryName (fieldsOf (record source)) = .ok source.tidied.name := by
    rw [entryName, fieldsOf, Value.field?_texts, hName]
    cases hTidied : source.tidied.name with
    | none => rfl
    | some words =>
        have hFilled := (Option.filter_eq_some_iff.mp hTidied).2
        simpa using hFilled
  have hKindRead : entryKind contents (fieldsOf (record source)) = .ok source.kind := by
    rw [entryKind, fieldsOf, Value.field?_texts, hKind]
    cases source.kind <;> rfl
  rw [ofEntry, hEntry]
  dsimp only
  rw [hUrlRead, hNameRead, hKindRead, ← hGiven.ofUrl_eq]
  rfl

theorem ofEntries_records {entries : List Value} (index : Nat)
    (hGiven : ∀ source ∈ sources, source.IsGiven)
    (hEntries : List.Forall₂ (fun entry record =>
      contents.collection? entry = some (.mapping (fieldsOf record))) entries (sources.map record)) :
    ofEntries contents index entries = .ok (sources.map Source.tidied) := by
  induction sources generalizing entries index with
  | nil =>
      cases hEntries
      rfl
  | cons source rest ih =>
      obtain ⟨hHere, hRest⟩ := List.forall_mem_cons.mp hGiven
      obtain ⟨entry, later, hEntry, hLater, rfl⟩ := List.forall₂_cons_right_iff.mp hEntries
      rw [ofEntries, ofEntry_record hHere hEntry]
      dsimp only
      rw [ih (index + 1) hRest hLater]
      rfl

/-- What is written for a catalog is read as its sources. -/
theorem parse_text (path : Path) (hGiven : ∀ source ∈ catalog.user, source.IsGiven)
    (hReadBack : IsReadBack catalog.records) :
    parse path catalog.text.toUTF8.toList = .ok (catalog.user.map Source.tidied) := by
  obtain ⟨document, entries, hDocument, hRoot, hEntries⟩ := exists_of_isReadBack hReadBack
  have hSources : ofDocument document = .ok (catalog.user.map Source.tidied) := by
    cases hNode : document.root with
    | collection node =>
        rw [ofDocument, hRoot, hNode]
        dsimp only
        rw [ofEntries_records 0 hGiven hEntries]
        rfl
    | _ =>
        rw [hNode] at hRoot
        cases hRoot
  rw [parse, Text.decodeUtf8_toUTF8]
  simp only [String.ofList_toList, text, hDocument]
  rw [hSources]
  rfl

theorem foldl_add (hDistinct : ((catalog.sources ++ sources).map (·.url)).Nodup) :
    sources.foldl add catalog = { catalog with user := catalog.user ++ sources } := by
  induction sources generalizing catalog with
  | nil => simp
  | cons source rest ih =>
      have hNew : catalog.contains source = false := by
        rw [Bool.eq_false_iff, Ne, contains_iff]
        intro hIn
        rw [List.map_append, List.nodup_append] at hDistinct
        exact hDistinct.2.2 _ hIn _ List.mem_cons_self rfl
      have hSources : (catalog.add source).sources ++ rest = catalog.sources ++ source :: rest := by
        rw [sources_add hNew, List.append_assoc]
        rfl
      rw [List.foldl_cons, ih (hSources ▸ hDistinct)]
      simp [add, hNew]

/-- Sources of different addresses make up a catalog as they are. -/
theorem ofSources_eq (path : Option Path)
    (hDistinct : (((fresh path includeBuiltin).sources ++ sources).map (·.url)).Nodup) :
    ofSources path includeBuiltin sources = { fresh path includeBuiltin with user := sources } := by
  rw [ofSources, foldl_add hDistinct]
  rfl

/-- A catalog with empty names counted as none. -/
def tidied (catalog : Catalog) : Catalog :=
  { catalog with
    builtin := catalog.builtin.map Source.tidied
    user := catalog.user.map Source.tidied }

theorem tidied_fresh (path : Option Path) (includeBuiltin : Bool) :
    (fresh path includeBuiltin).tidied = fresh path includeBuiltin := by
  cases includeBuiltin <;> rfl

theorem sources_tidied (catalog : Catalog) :
    catalog.tidied.sources = catalog.sources.map Source.tidied := by
  rw [sources, sources, List.map_append, tidied]

theorem contains_tidied (catalog : Catalog) (source : Source) :
    catalog.tidied.contains source = catalog.contains source := by
  rw [contains, sources_tidied, List.any_map, contains]
  rfl

theorem isUser_tidied (catalog : Catalog) (source : Source) :
    catalog.tidied.isUser source.tidied = catalog.isUser source := by
  rw [isUser, tidied, List.any_map, isUser]
  rfl

theorem get?_tidied (catalog : Catalog) (url : String) :
    catalog.tidied.get? url = (catalog.get? url).map Source.tidied := by
  rw [get?, sources_tidied, List.find?_map, get?]
  rfl

theorem removable?_tidied (catalog : Catalog) (url : String) :
    catalog.tidied.removable? url = (catalog.removable? url).map Source.tidied := by
  rw [removable?, get?_tidied, removable?]
  cases catalog.get? url with
  | none => rfl
  | some source =>
      rw [Option.map_some, Option.filter_some, Option.filter_some, isUser_tidied]
      split <;> rfl

theorem record_tidied (source : Source) : record source.tidied = record source := by
  have hTwice : source.tidied.tidied.name = source.tidied.name := by
    rw [Source.tidied, Source.tidied]
    simp [Option.filter_filter]
  show [("url", source.url), ("kind", source.kind.name)] ++
      (source.tidied.tidied.name.map (("name", ·))).toList = _
  rw [hTwice]
  rfl

theorem map_record_tidied (sources : List Source) :
    (sources.map Source.tidied).map record = sources.map record := by
  rw [List.map_map]
  exact List.map_congr_left fun source _ => record_tidied source

theorem text_of_user {other : Catalog}
    (hUser : catalog.user = other.user.map Source.tidied) : catalog.text = other.text := by
  rw [text, records, hUser, map_record_tidied, text, records]

theorem text_add_tidied (catalog : Catalog) (source : Source) :
    (catalog.tidied.add source).text = (catalog.add source).text := by
  rw [add, contains_tidied, add]
  split
  · exact text_of_user rfl
  · show renderRecords ((catalog.user.map Source.tidied ++ [source]).map record) =
      renderRecords ((catalog.user ++ [source]).map record)
    rw [List.map_append, map_record_tidied, List.map_append]

theorem text_remove_tidied (catalog : Catalog) (url : String) :
    (catalog.tidied.remove url).text = (catalog.remove url).text := by
  rw [remove, removable?_tidied, remove]
  cases catalog.removable? url with
  | none => exact text_of_user rfl
  | some source =>
      apply text_of_user
      show (catalog.user.map Source.tidied).eraseP (·.same source.tidied) = _
      rw [List.eraseP_map]
      rfl

theorem forall_user_add {holds : Source → Prop} (hUser : ∀ source ∈ catalog.user, holds source)
    (hSource : holds source) : ∀ other ∈ (catalog.add source).user, holds other := by
  intro other hOther
  rw [add] at hOther
  split at hOther
  · exact hUser other hOther
  · rcases List.mem_append.mp hOther with hOld | hNew
    · exact hUser other hOld
    · exact List.mem_singleton.mp hNew ▸ hSource

/-- A catalog that was made empty, of which only the user has changed anything. -/
structure IsEdited (path : Path) (catalog : Catalog) : Prop where
  sound : IsSound true catalog
  given : ∀ source ∈ catalog.user, source.IsGiven
  rest : catalog = { fresh (some path) true with user := catalog.user }

theorem isEdited_fresh (path : Path) : IsEdited path (fresh (some path) true) :=
  ⟨isSound_fresh _ _, nofun, rfl⟩

theorem IsEdited.add (hEdited : IsEdited path catalog) (hGiven : source.IsGiven) :
    IsEdited path (catalog.add source) := by
  refine ⟨hEdited.sound.add hGiven.isMade, forall_user_add hEdited.given hGiven, ?_⟩
  have hRest := hEdited.rest
  rw [Catalog.add]
  split
  · exact hRest
  · generalize catalog.user ++ [source] = user
    rw [hRest]

theorem IsEdited.remove (hEdited : IsEdited path catalog) (url : String) :
    IsEdited path (catalog.remove url) := by
  refine ⟨hEdited.sound.remove url, ?_, ?_⟩
  · obtain ⟨sources, hSublist, hRemoved⟩ := remove_eq catalog url
    rw [hRemoved]
    intro other hOther
    exact hEdited.given other (hSublist.subset hOther)
  · obtain ⟨sources, _, hRemoved⟩ := remove_eq catalog url
    rw [hRemoved, hEdited.rest]

/-- A catalog that was written comes back from its file. -/
theorem IsEdited.load_eq {files : Files} (hEdited : IsEdited path catalog)
    (hFound : files.find path = .ok (.file catalog.text.toUTF8.toList))
    (hReadBack : IsReadBack catalog.records) :
    load files path true = .ok catalog.tidied := by
  have hBuiltin : catalog.builtin = (fresh (some path) true).builtin := by rw [hEdited.rest]
  have hDistinct : (((fresh (some path) true).sources ++ catalog.user.map Source.tidied).map
      (·.url)).Nodup := by
    have hUrls := hEdited.sound.urls
    rw [sources, hBuiltin, List.map_append] at hUrls
    rw [sources, fresh, List.append_nil, List.map_append, List.map_map]
    exact hUrls
  have hTidied : catalog.tidied =
      { fresh (some path) true with user := catalog.user.map Source.tidied } := by
    rw [tidied, hBuiltin]
    generalize catalog.user.map Source.tidied = user
    rw [hEdited.rest]
    rfl
  rw [load, hFound]
  dsimp only
  rw [parse_text path hEdited.given hReadBack, Except.map, ofSources_eq _ hDistinct, hTidied]

end Catalog

end SdkFeed
