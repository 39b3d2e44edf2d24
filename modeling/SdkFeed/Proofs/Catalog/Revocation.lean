import SdkFeed.Proofs.Catalog.Lineage

/-! Whether removing an address takes back what was registered under it. An address is looked up source
by source, each time as a source of the kind at hand would keep it. So the source that came last is the
one that goes, unless the address is one of a directory, and an earlier source of the other kind is at
the index file there: then this one is found. Under the address that a source is kept under, it can
always be taken back. -/
namespace SdkFeed.Catalog

open SdkFeed.Feed (Kind)

variable {catalog : Catalog} {source other : Source} {url : String} {name : Option String} {kind : Kind}
  {includeBuiltin : Bool}

/-- The address of the index file of a kind in the directory that an address names. -/
structure IsIndexIn (url : String) (source : Source) : Prop where
  directory : endsIn (Text.trim url) "/" = true
  url : source.url = Text.trim url ++ source.kind.family.indexFile

theorem not_mem_urls (hNew : catalog.contains source = false) :
    source.url ∉ catalog.sources.map (·.url) := by
  rw [← contains_iff, hNew]
  exact nofun

/-- What is found instead of a new source is one of the other kind, at its index file. -/
theorem IsSound.isIndexIn_of_get? (hSound : IsSound includeBuiltin catalog)
    (hNew : catalog.contains (.ofUrl url name kind) = false) (hFound : catalog.get? url = some other) :
    other.kind ≠ kind ∧ IsIndexIn url other := by
  have hIn : other ∈ catalog.sources := List.mem_of_find?_eq_some hFound
  have hElsewhere : other.url ≠ Source.normalUrl kind url := by
    intro hSame
    have hUrl := not_mem_urls hNew
    rw [Source.ofUrl_url, ← hSame] at hUrl
    exact hUrl (List.mem_map_of_mem hIn)
  have hNamed : other.url = url ∨ other.url = Source.normalUrl other.kind url := by
    simpa using List.find?_some hFound
  have hNormal : other.url = Source.normalUrl other.kind url := by
    refine hNamed.resolve_left fun hRaw => hElsewhere ?_
    have hKept := (hSound.made other hIn).isKept
    rw [← hRaw, hKept.normalUrl_eq kind]
  have hDirectory : endsIn (Text.trim url) "/" = true := by
    by_contra hFile
    refine hElsewhere (hNormal.trans ?_)
    rw [Source.normalUrl, Source.normalUrl]
    simp only [if_neg hFile]
  refine ⟨?_, hDirectory, ?_⟩
  · rintro rfl
    exact hElsewhere hNormal
  · rw [hNormal, Source.normalUrl]
    simp only [if_pos hDirectory]

theorem isUser_iff : catalog.isUser source = true ↔ source.url ∈ catalog.user.map (·.url) := by
  simp only [isUser, Source.same, List.any_eq_true, beq_iff_eq, List.mem_map]

theorem remove_congr {address : String}
    (hSame : catalog.removable? url = catalog.removable? address) :
    catalog.remove url = catalog.remove address := by
  rw [remove, hSame, remove]

theorem remove_of_removable? (hNone : catalog.removable? url = none) : catalog.remove url = catalog := by
  rw [remove, hNone]

section Added

variable (hNew : catalog.contains (.ofUrl url name kind) = false)

include hNew

theorem add_user : (catalog.add (.ofUrl url name kind)).user =
    catalog.user ++ [.ofUrl url name kind] := by
  rw [add, if_neg (Bool.eq_false_iff.mp hNew)]

theorem add_builtin : (catalog.add (.ofUrl url name kind)).builtin = catalog.builtin := by
  rw [add, if_neg (Bool.eq_false_iff.mp hNew)]

/-- The address of a new source leads to what it led to before, or else to the new source. -/
theorem get?_add : (catalog.add (.ofUrl url name kind)).get? url =
    some ((catalog.get? url).getD (.ofUrl url name kind)) := by
  have hOwn : ((Source.ofUrl url name kind).url == url ||
      (Source.ofUrl url name kind).url ==
        Source.normalUrl (Source.ofUrl url name kind).kind url) = true := by
    rw [Source.ofUrl_url]
    exact Bool.or_eq_true_iff.mpr (.inr BEq.rfl)
  rw [get?, sources_add hNew, List.find?_append, List.find?_singleton, if_pos hOwn, ← get?]
  cases catalog.get? url <;> rfl

/-- Taking the new source away leaves what was there. -/
theorem eraseP_add :
    (catalog.add (.ofUrl url name kind)).user.eraseP (·.same (.ofUrl url name kind)) =
      catalog.user := by
  have hOthers : ∀ other ∈ catalog.user, ¬ other.same (.ofUrl url name kind) = true := by
    intro other hOther hSame
    have hUrl : other.url = (Source.ofUrl url name kind).url := beq_iff_eq.mp hSame
    exact not_mem_urls hNew (hUrl ▸ List.mem_map_of_mem (List.mem_append_right _ hOther))
  rw [add_user hNew, List.eraseP_append_right _ hOthers]
  simp [Source.same]

theorem remove_add {address : String}
    (hFound : (catalog.add (.ofUrl url name kind)).removable? address =
      some (.ofUrl url name kind)) :
    (catalog.add (.ofUrl url name kind)).remove address = catalog := by
  rw [remove, hFound]
  dsimp only
  rw [eraseP_add hNew, add, if_neg (Bool.eq_false_iff.mp hNew)]

/-- Where nothing goes by the address, the new source is taken back. -/
theorem revoked_alone (hNone : catalog.get? url = none) :
    (catalog.add (.ofUrl url name kind)).removable? url = some (.ofUrl url name kind) ∧
      (catalog.add (.ofUrl url name kind)).remove url = catalog := by
  have hUser : (catalog.add (.ofUrl url name kind)).isUser (.ofUrl url name kind) = true := by
    rw [isUser_iff, add_user hNew, List.map_append]
    exact List.mem_append_right _ List.mem_cons_self
  have hFound : (catalog.add (.ofUrl url name kind)).removable? url =
      some (.ofUrl url name kind) := by
    rw [removable?, get?_add hNew, hNone, Option.getD_none, Option.filter_some, hUser]
    rfl
  exact ⟨hFound, remove_add hNew hFound⟩

end Added

/-- What removing an address does to a catalog right after a source was registered under it. -/
structure IsRevoked (catalog : Catalog) (url : String) (source : Source) : Prop where
  /-- If nothing went by the address, the source goes again, and all is as it was. -/
  alone : catalog.get? url = none →
    (catalog.add source).removable? url = some source ∧ (catalog.add source).remove url = catalog
  /-- If the built-in source went by the address, nothing is removed. -/
  builtin : ∀ other ∈ catalog.builtin, catalog.get? url = some other →
    other.kind ≠ source.kind ∧ IsIndexIn url other ∧
      (catalog.add source).removable? url = none ∧
      (catalog.add source).remove url = catalog.add source
  /-- If another source of the user went by the address, this one goes, and the new one stays. -/
  user : ∀ other ∈ catalog.user, catalog.get? url = some other →
    other.kind ≠ source.kind ∧ IsIndexIn url other ∧
      (catalog.add source).removable? url = some other ∧
      source ∈ ((catalog.add source).remove url).user ∧
      other ∉ ((catalog.add source).remove url).user
  undone : ((catalog.add source).removable? url).isSome = true ∧
    ((catalog.add source).remove url).user = catalog.user ↔ catalog.get? url = none
  own : (catalog.add source).removable? source.url = some source ∧
    (catalog.add source).remove source.url = catalog

section Sound

variable (hSound : IsSound includeBuiltin catalog)
  (hNew : catalog.contains (.ofUrl url name kind) = false)

include hSound hNew

theorem IsSound.revoked_builtin (hOther : other ∈ catalog.builtin)
    (hFound : catalog.get? url = some other) :
    (catalog.add (.ofUrl url name kind)).removable? url = none ∧
      (catalog.add (.ofUrl url name kind)).remove url = catalog.add (.ofUrl url name kind) := by
  have hAdded := hSound.add (Source.isMade_ofUrl url name kind)
  have hUser : (catalog.add (.ofUrl url name kind)).isUser other = false := by
    rw [Bool.eq_false_iff, Ne, isUser_iff]
    intro hIn
    have hUrls := hAdded.urls
    rw [sources, List.map_append, List.nodup_append, add_builtin hNew] at hUrls
    exact hUrls.2.2 _ (List.mem_map_of_mem hOther) _ hIn rfl
  have hNone : (catalog.add (.ofUrl url name kind)).removable? url = none := by
    rw [removable?, get?_add hNew, hFound, Option.getD_some, Option.filter_some, hUser]
    rfl
  exact ⟨hNone, remove_of_removable? hNone⟩

theorem IsSound.revoked_user (hOther : other ∈ catalog.user)
    (hFound : catalog.get? url = some other) :
    (catalog.add (.ofUrl url name kind)).removable? url = some other ∧
      .ofUrl url name kind ∈ ((catalog.add (.ofUrl url name kind)).remove url).user ∧
      other ∉ ((catalog.add (.ofUrl url name kind)).remove url).user := by
  have hAdded := hSound.add (Source.isMade_ofUrl url name kind)
  have hStill : other ∈ (catalog.add (.ofUrl url name kind)).user := by
    rw [add_user hNew]
    exact List.mem_append_left _ hOther
  have hOwn := hAdded.removable?_url hStill
  have hGets : (catalog.add (.ofUrl url name kind)).get? url =
      (catalog.add (.ofUrl url name kind)).get? other.url := by
    rw [get?_add hNew, hFound, hAdded.get?_url (List.mem_append_right _ hStill)]
    rfl
  have hRemovable : (catalog.add (.ofUrl url name kind)).removable? url =
      (catalog.add (.ofUrl url name kind)).removable? other.url := by
    rw [removable?, hGets, removable?]
  obtain ⟨front, back, hUser, hGone, hRemoved⟩ := hAdded.remove_url hStill
  rw [remove_congr hRemovable, hRemoved]
  refine ⟨hRemovable.trans hOwn, ?_, hGone⟩
  -- The new source is not the one that goes, so it is among those before and after it.
  have hIn : Source.ofUrl url name kind ∈ front ++ other :: back := by
    rw [← hUser, add_user hNew]
    exact List.mem_append_right _ List.mem_cons_self
  have hDifferent : Source.ofUrl url name kind ≠ other := by
    rintro rfl
    exact not_mem_urls hNew (List.mem_map_of_mem (List.mem_append_right _ hOther))
  simpa [hDifferent] using hIn

/-- The sources of the user are those that were there before just where nothing went by the address. -/
theorem IsSound.undone_iff : ((catalog.add (.ofUrl url name kind)).removable? url).isSome = true ∧
    ((catalog.add (.ofUrl url name kind)).remove url).user = catalog.user ↔
      catalog.get? url = none := by
  constructor
  · rintro ⟨hRemovable, hUser⟩
    cases hFound : catalog.get? url with
    | none => rfl
    | some other =>
        rcases List.mem_append.mp (List.mem_of_find?_eq_some hFound) with hBuiltin | hOther
        · rw [(hSound.revoked_builtin hNew hBuiltin hFound).1] at hRemovable
          cases hRemovable
        · obtain ⟨_, hStays, _⟩ := hSound.revoked_user hNew hOther hFound
          rw [hUser] at hStays
          exact absurd (List.mem_map_of_mem (List.mem_append_right _ hStays)) (not_mem_urls hNew)
  · intro hNone
    obtain ⟨hRemovable, hRemoved⟩ := revoked_alone hNew hNone
    rw [hRemovable, hRemoved]
    exact ⟨rfl, rfl⟩

theorem IsSound.isRevoked : IsRevoked catalog url (.ofUrl url name kind) := by
  have hIndex {other : Source} (hFound : catalog.get? url = some other) :=
    hSound.isIndexIn_of_get? hNew hFound
  have hIn : Source.ofUrl url name kind ∈ (catalog.add (.ofUrl url name kind)).user := by
    rw [add_user hNew]
    exact List.mem_append_right _ List.mem_cons_self
  have hOwn := (hSound.add (Source.isMade_ofUrl url name kind)).removable?_url hIn
  refine ⟨revoked_alone hNew, ?_, ?_, hSound.undone_iff hNew, hOwn, remove_add hNew hOwn⟩
  · intro other hOther hFound
    exact ⟨(hIndex hFound).1, (hIndex hFound).2, hSound.revoked_builtin hNew hOther hFound⟩
  · intro other hOther hFound
    exact ⟨(hIndex hFound).1, (hIndex hFound).2, hSound.revoked_user hNew hOther hFound⟩

end Sound

/-- Whatever was done with a catalog: if a source is registered under an address, and the address is removed
right afterwards, the sources of the user are those that were there before just where nothing went by the
address. Otherwise it is the address of a directory, and the source of the other kind at the index file
there is what the address means; that one goes, if the user can remove it at all. -/
theorem added_source_isRevoked {path : Option Path} {sources : List Source} {events : List Event}
    (hSources : ∀ source ∈ sources, source.IsMade)
    (hProceeds : (ofSources path includeBuiltin sources).Proceeds events)
    (hNew : ((ofSources path includeBuiltin sources).after events).contains
      (.ofUrl url name kind) = false) :
    IsRevoked ((ofSources path includeBuiltin sources).after events) url (.ofUrl url name kind) := by
  rw [ofSources_eq_after] at hProceeds hNew ⊢
  have hHistory := proceeds_append.mpr ⟨proceeds_registrations.mpr hSources, hProceeds⟩
  rw [← after_append] at hNew ⊢
  exact ((isSound_fresh path includeBuiltin).after hHistory).isRevoked hNew

/-- A source at the index file of a directory. -/
def indexSources : List Source :=
  [.ofUrl "http://site.test/addon.xml" none .addon]

/-- A repository in the same directory is registered, and removing the directory takes away the source at
the other index file. -/
theorem repository_isRevoked :
    (∀ source ∈ indexSources, source.IsMade) ∧
    (ofSources none true indexSources).Proceeds [] ∧
    ((ofSources none true indexSources).after []).contains
      (.ofUrl "http://site.test/" none .repository) = false ∧
    IsRevoked ((ofSources none true indexSources).after []) "http://site.test/"
      (.ofUrl "http://site.test/" none .repository) := by
  have hSources : ∀ source ∈ indexSources, source.IsMade := by
    simp [indexSources, Source.isMade_ofUrl]
  have hNew : ((ofSources none true indexSources).after []).contains
      (.ofUrl "http://site.test/" none .repository) = false := by
    decide +kernel
  exact ⟨hSources, trivial, hNew, added_source_isRevoked hSources trivial hNew⟩

/-- An added source is not always taken back under the address it was added under. The directory of the
built-in source leads to the built-in source, which stays, and the directory of a source of the user leads
to that one, which goes in place of the new one. -/
theorem added_source_not_undone :
    ((ofSources none true []).contains
        (.ofUrl "https://dl-ssl.google.com/android/repository/" none .addon) = false ∧
      ((ofSources none true []).add
        (.ofUrl "https://dl-ssl.google.com/android/repository/" none .addon)).removable?
          "https://dl-ssl.google.com/android/repository/" = none ∧
      (((ofSources none true []).add
        (.ofUrl "https://dl-ssl.google.com/android/repository/" none .addon)).remove
          "https://dl-ssl.google.com/android/repository/").user.map (·.url) =
        ["https://dl-ssl.google.com/android/repository/addon.xml"]) ∧
    ((ofSources none false indexSources).contains
        (.ofUrl "http://site.test/" none .repository) = false ∧
      (((ofSources none false indexSources).add
        (.ofUrl "http://site.test/" none .repository)).remove "http://site.test/").user.map
          (·.url) = ["http://site.test/repository.xml"] ∧
      (ofSources none false indexSources).user.map (·.url) = ["http://site.test/addon.xml"]) := by
  decide +kernel

end SdkFeed.Catalog
