import Mathlib.Data.List.Forall2
import Mathlib.Data.List.Nodup
import SdkFeed.Catalog.Refresh
import SdkFeed.Proofs.Source.History

/-! A catalog through any number of registrations, removals and refreshes. Refreshing can change the
addresses of sources, so that two of them come to have one; what is dropped afterwards is just what keeps
the addresses different. Events are listed with the last one first. -/
namespace SdkFeed

open SdkFeed.Feed (Kind)

namespace Source

variable {source : Source} {url : String}

theorem IsKept.normalUrl_eq (hKept : IsKept url) (kind : Kind) : normalUrl kind url = url := by
  rw [normalUrl, hKept.trimmed, hKept.file]
  rfl

/-- A source that was made at an address, and loaded and cleared any number of times since. -/
def IsMade (source : Source) : Prop :=
  ∃ url name kind events, source = (ofUrl url name kind).after events

theorem isMade_ofUrl (url : String) (name : Option String) (kind : Kind) :
    (ofUrl url name kind).IsMade :=
  ⟨url, name, kind, [], by rw [after]⟩

theorem ofUrl_url (url : String) (name : Option String) (kind : Kind) :
    (ofUrl url name kind).url = normalUrl kind url := by
  rw [ofUrl]

theorem ofUrl_isKept (url : String) (name : Option String) (kind : Kind) :
    IsKept (ofUrl url name kind).url := by
  rw [ofUrl_url]
  exact normalUrl_isKept kind url

theorem IsMade.isKept (hMade : source.IsMade) : IsKept source.url := by
  obtain ⟨url, name, kind, events, rfl⟩ := hMade
  exact after_isKept (ofUrl_isKept url name kind) events

theorem IsMade.follow (hMade : source.IsMade) (event : Event) :
    (source.follow (source.happening event)).IsMade := by
  obtain ⟨url, name, kind, events, rfl⟩ := hMade
  exact ⟨url, name, kind, event :: events, rfl⟩

end Source

/-- An element whose key no other one has stands alone with it. -/
theorem exists_split_of_nodup {α β : Type} {key : α → β} {items : List α} {item : α}
    (hDistinct : (items.map key).Nodup) (hItem : item ∈ items) :
    ∃ front back, items = front ++ item :: back ∧
      (∀ other ∈ front, key other ≠ key item) ∧ ∀ other ∈ back, key other ≠ key item := by
  obtain ⟨front, back, rfl⟩ := List.append_of_mem hItem
  refine ⟨front, back, rfl, ?_, ?_⟩
  · intro other hOther hSame
    rw [List.map_append, List.nodup_append] at hDistinct
    exact hDistinct.2.2 _ (List.mem_map_of_mem hOther) _ List.mem_cons_self hSame
  · intro other hOther hSame
    rw [List.map_append, List.map_cons, List.nodup_append, List.nodup_cons] at hDistinct
    exact hDistinct.2.1.1 (hSame ▸ List.mem_map_of_mem hOther)

/-- A property that a relation carries over holds of all elements related to those that have it. -/
theorem forall_mem_of_forall₂ {α : Type} {relates : α → α → Prop} (holds : α → Prop)
    (hCarries : ∀ after before, relates after before → holds before → holds after)
    {afters befores : List α} (hRelates : List.Forall₂ relates afters befores)
    (hBefore : ∀ before ∈ befores, holds before) : ∀ after ∈ afters, holds after := by
  induction hRelates with
  | nil => exact nofun
  | cons hHere _ ih =>
      rw [List.forall_mem_cons] at hBefore ⊢
      exact ⟨hCarries _ _ hHere hBefore.1, ih hBefore.2⟩

namespace Catalog

/-- What is done with a catalog. -/
inductive Event where
  | add (source : Source)
  | remove (url : String)
  | refresh {σ : Type} (services : Load.Services σ) (forceOpen : Bool) (state : σ)

/-- The catalog after an event. -/
def next (catalog : Catalog) : Event → Catalog
  | .add source => catalog.add source
  | .remove url => catalog.remove url
  | .refresh services forceOpen state => (refresh services forceOpen catalog state).catalog

/-- The catalog after a list of events. -/
def after (catalog : Catalog) : List Event → Catalog
  | [] => catalog
  | event :: earlier => (catalog.after earlier).next event

/-- What an event needs: a source was made by the program, and a refresh comes back. -/
def Allows (catalog : Catalog) : Event → Prop
  | .add source => source.IsMade
  | .remove _ => True
  | .refresh services forceOpen state =>
    crash? (refresh services forceOpen catalog state).visits = none

/-- Every event of a list finds what it needs. -/
def Proceeds (catalog : Catalog) : List Event → Prop
  | [] => True
  | event :: earlier => catalog.Proceeds earlier ∧ (catalog.after earlier).Allows event

theorem after_append (catalog : Catalog) (events earlier : List Event) :
    catalog.after (events ++ earlier) = (catalog.after earlier).after events := by
  induction events with
  | nil => rfl
  | cons event rest ih => rw [List.cons_append, after, ih, after]

theorem proceeds_append {catalog : Catalog} {events earlier : List Event} :
    catalog.Proceeds (events ++ earlier) ↔
      catalog.Proceeds earlier ∧ (catalog.after earlier).Proceeds events := by
  induction events with
  | nil => simp [Proceeds]
  | cons event rest ih => simp [Proceeds, ih, after_append, and_assoc]

/-- What sources are registered with a catalog when it is made. -/
def registrations (sources : List Source) : List Event :=
  (sources.map Event.add).reverse

theorem ofSources_eq_after (path : Option Path) (includeBuiltin : Bool) (sources : List Source) :
    ofSources path includeBuiltin sources =
      (fresh path includeBuiltin).after (registrations sources) := by
  rw [ofSources]
  generalize fresh path includeBuiltin = catalog
  induction sources generalizing catalog with
  | nil => rfl
  | cons source rest ih =>
      rw [List.foldl_cons, ih, registrations, registrations, List.map_cons, List.reverse_cons,
        after_append]
      rfl

theorem proceeds_registrations {catalog : Catalog} {sources : List Source} :
    catalog.Proceeds (registrations sources) ↔ ∀ source ∈ sources, source.IsMade := by
  induction sources generalizing catalog with
  | nil => simp [registrations, Proceeds]
  | cons source rest ih =>
      rw [registrations, List.map_cons, List.reverse_cons, proceeds_append, ← registrations, ih]
      simp [Proceeds, Allows]

variable {σ : Type} {services : Load.Services σ} {forceOpen includeBuiltin : Bool} {state : σ}
  {catalog : Catalog} {source loaded : Source} {sources : List Source} {url : String}

/-- A source is another one after a load, in whatever state the services were. -/
def IsLoaded (services : Load.Services σ) (forceOpen : Bool) (loaded source : Source) : Prop :=
  ∃ state, loaded = source.follow (source.happening (.load services .tools forceOpen state))

theorem visit_isLoaded (services : Load.Services σ) (forceOpen : Bool) (source : Source) (state : σ) :
    IsLoaded services forceOpen (visit services forceOpen source state).1.source source := by
  refine ⟨state, ?_⟩
  rcases hLoad : Load.load services ⟨source, .tools⟩ forceOpen state with ⟨run, result⟩
  simp only [visit, Source.happening, hLoad]
  cases result <;> rfl

theorem visitAll_isLoaded (services : Load.Services σ) (forceOpen : Bool) (sources : List Source)
    (state : σ) : List.Forall₂ (IsLoaded services forceOpen)
      ((visitAll services forceOpen sources state).1.map (·.source)) sources := by
  induction sources generalizing state with
  | nil => exact .nil
  | cons source rest ih => exact .cons (visit_isLoaded services forceOpen source state) (ih _)

theorem gather_visits (catalog : Catalog) (visits : List Visit) (state : σ) :
    (gather catalog visits state).visits = visits := by
  rw [gather]
  split <;> rfl

theorem gather_catalog {visits : List Visit} (catalog : Catalog) (hReturns : crash? visits = none)
    (state : σ) : (gather catalog visits state).catalog =
      (catalog.withSources (visits.map (·.source))).dropDuplicates := by
  simp only [gather, hReturns]
  rfl

/-- A refresh that comes back loads every source, and then drops some of the user. -/
theorem refresh_catalog
    (hReturns : crash? (refresh services forceOpen catalog state).visits = none) :
    ∃ builtin user, List.Forall₂ (IsLoaded services forceOpen) builtin catalog.builtin ∧
      List.Forall₂ (IsLoaded services forceOpen) user catalog.user ∧
      (refresh services forceOpen catalog state).catalog =
        { catalog with builtin, user := distinct (builtin.map (·.url)) user } := by
  have hLoaded := visitAll_isLoaded services forceOpen catalog.sources state
  rw [refresh, gather_visits] at hReturns
  exact ⟨_, _, List.forall₂_take_append _ _ _ hLoaded, List.forall₂_drop_append _ _ _ hLoaded,
    gather_catalog catalog hReturns _⟩

theorem IsLoaded.isMade (hLoaded : IsLoaded services forceOpen loaded source) (hMade : source.IsMade) :
    loaded.IsMade := by
  obtain ⟨_, rfl⟩ := hLoaded
  exact hMade.follow _

/-- The source that comes with the program, before or after any loads. -/
def IsBuiltin (source : Source) : Prop :=
  source.url = androidRepository.url ∧ source.name = androidRepository.name ∧
    source.kind = androidRepository.kind

/-- No load leaves the address of the built-in source, since it names the index file. -/
theorem IsLoaded.isBuiltin (hLoaded : IsLoaded services forceOpen loaded source)
    (hBuiltin : IsBuiltin source) : IsBuiltin loaded := by
  obtain ⟨state, rfl⟩ := hLoaded
  obtain ⟨hUrl, hName, hKind⟩ := hBuiltin
  have hEnds : endsIn source.url source.kind.family.indexFile = true := by
    rw [hUrl, hKind]
    decide
  refine ⟨?_, (Source.follow_name _ _).trans hName, (Source.follow_kind _ _).trans hKind⟩
  rcases (Source.happening_outcomes source (.load services .tools forceOpen state)).follow_url with
    hStays | ⟨_, hOther, _⟩
  · exact hStays.trans hUrl
  · exact absurd (hEnds.symm.trans hOther) nofun

theorem distinct_sublist (seen : List String) (sources : List Source) :
    (distinct seen sources).Sublist sources := by
  induction sources generalizing seen with
  | nil => exact .slnil
  | cons source rest ih =>
      rw [distinct]
      split
      · exact (ih seen).cons source
      · exact (ih _).cons_cons source

theorem distinct_nodup {seen : List String} (hSeen : seen.Nodup) (sources : List Source) :
    (seen ++ (distinct seen sources).map (·.url)).Nodup := by
  induction sources generalizing seen with
  | nil => simpa [distinct] using hSeen
  | cons source rest ih =>
      rw [distinct]
      split
      · exact ih hSeen
      · rename_i hNew
        have hCons : (source.url :: seen).Nodup :=
          List.nodup_cons.mpr ⟨by simpa using hNew, hSeen⟩
        rw [List.map_cons, List.perm_middle.nodup_iff]
        exact ih hCons

/-- What holds of a catalog at every time. -/
structure IsSound (includeBuiltin : Bool) (catalog : Catalog) : Prop where
  urls : (catalog.sources.map (·.url)).Nodup
  made : ∀ source ∈ catalog.sources, source.IsMade
  count : catalog.builtin.length = if includeBuiltin then 1 else 0
  builtin : ∀ source ∈ catalog.builtin, IsBuiltin source

theorem isSound_fresh (path : Option Path) (includeBuiltin : Bool) :
    IsSound includeBuiltin (fresh path includeBuiltin) := by
  cases includeBuiltin with
  | false => exact ⟨List.nodup_nil, nofun, rfl, nofun⟩
  | true =>
      refine ⟨List.nodup_singleton _, ?_, rfl, ?_⟩
      · intro source hSource
        obtain rfl := List.mem_singleton.mp hSource
        exact Source.isMade_ofUrl _ _ _
      · intro source hSource
        obtain rfl := List.mem_singleton.mp hSource
        exact ⟨rfl, rfl, rfl⟩

theorem contains_iff : catalog.contains source = true ↔
    source.url ∈ catalog.sources.map (·.url) := by
  simp [contains, Source.same]

theorem sources_add (hNew : catalog.contains source = false) :
    (catalog.add source).sources = catalog.sources ++ [source] := by
  simp [add, hNew, sources]

theorem IsSound.add (hSound : IsSound includeBuiltin catalog) (hMade : source.IsMade) :
    IsSound includeBuiltin (catalog.add source) := by
  cases hNew : catalog.contains source with
  | true =>
      rw [Catalog.add, hNew]
      exact hSound
  | false =>
      have hSources := sources_add hNew
      have hBuiltin : (catalog.add source).builtin = catalog.builtin := by
        simp [Catalog.add, hNew]
      refine ⟨?_, ?_, hBuiltin ▸ hSound.count, hBuiltin ▸ hSound.builtin⟩
      · have hUrl : source.url ∉ catalog.sources.map (·.url) := by
          rw [← contains_iff, hNew]
          exact nofun
        rw [hSources, List.map_append, List.map_singleton, List.nodup_append]
        refine ⟨hSound.urls, List.nodup_singleton _, ?_⟩
        rintro url hIn _ hOther rfl
        exact hUrl (List.mem_singleton.mp hOther ▸ hIn)
      · intro other hOther
        rw [hSources, List.mem_append, List.mem_singleton] at hOther
        rcases hOther with hOther | rfl
        · exact hSound.made other hOther
        · exact hMade

/-- With fewer sources of the user a catalog stays sound. -/
theorem IsSound.of_sublist (hSound : IsSound includeBuiltin catalog)
    (hSublist : sources.Sublist catalog.user) :
    IsSound includeBuiltin { catalog with user := sources } := by
  have hSources : (catalog.builtin ++ sources).Sublist catalog.sources :=
    (List.Sublist.refl _).append hSublist
  exact ⟨hSound.urls.sublist (hSources.map _),
    fun source hSource => hSound.made source (hSources.subset hSource), hSound.count,
    hSound.builtin⟩

theorem remove_eq (catalog : Catalog) (url : String) : ∃ sources, sources.Sublist catalog.user ∧
    catalog.remove url = { catalog with user := sources } := by
  rw [remove]
  split
  · exact ⟨catalog.user, .refl _, rfl⟩
  · exact ⟨_, List.eraseP_sublist, rfl⟩

theorem IsSound.remove (hSound : IsSound includeBuiltin catalog) (url : String) :
    IsSound includeBuiltin (catalog.remove url) := by
  obtain ⟨sources, hSublist, hRemoved⟩ := remove_eq catalog url
  rw [hRemoved]
  exact hSound.of_sublist hSublist

theorem IsSound.refresh (hSound : IsSound includeBuiltin catalog)
    (hReturns : crash? (refresh services forceOpen catalog state).visits = none) :
    IsSound includeBuiltin (refresh services forceOpen catalog state).catalog := by
  obtain ⟨builtin, user, hBuiltin, hUser, hCatalog⟩ := refresh_catalog hReturns
  have hMade := hSound.made
  simp only [sources, List.forall_mem_append] at hMade
  have hCount : builtin.length = if includeBuiltin then 1 else 0 :=
    hBuiltin.length_eq.trans hSound.count
  have hUrls : (builtin.map (·.url)).Nodup := by
    have hShort : builtin.length ≤ 1 := by
      rw [hCount]
      split <;> omega
    match builtin, hShort with
    | [], _ => exact List.nodup_nil
    | [_], _ => exact List.nodup_singleton _
  rw [hCatalog]
  refine ⟨?_, ?_, hCount, ?_⟩
  · rw [sources, List.map_append]
    exact distinct_nodup hUrls user
  · intro source hSource
    rcases List.mem_append.mp hSource with hIn | hIn
    · exact forall_mem_of_forall₂ Source.IsMade (fun _ _ => IsLoaded.isMade) hBuiltin hMade.1 source hIn
    · exact forall_mem_of_forall₂ Source.IsMade (fun _ _ => IsLoaded.isMade) hUser hMade.2 source
        ((distinct_sublist _ _).subset hIn)
  · exact forall_mem_of_forall₂ IsBuiltin (fun _ _ => IsLoaded.isBuiltin) hBuiltin hSound.builtin

theorem IsSound.next {event : Event} (hSound : IsSound includeBuiltin catalog)
    (hAllows : catalog.Allows event) : IsSound includeBuiltin (catalog.next event) := by
  cases event with
  | add source => exact hSound.add hAllows
  | remove url => exact hSound.remove url
  | refresh services forceOpen state => exact hSound.refresh hAllows

theorem IsSound.after {events : List Event} (hSound : IsSound includeBuiltin catalog)
    (hProceeds : catalog.Proceeds events) : IsSound includeBuiltin (catalog.after events) := by
  induction events with
  | nil => exact hSound
  | cons event earlier ih => exact (ih hProceeds.1).next hProceeds.2

section Lookup

variable (hSound : IsSound includeBuiltin catalog)

include hSound

/-- Asking for the address of a source gives this source. -/
theorem IsSound.get?_url (hSource : source ∈ catalog.sources) :
    catalog.get? source.url = some source := by
  have hKept := (hSound.made source hSource).isKept
  obtain ⟨front, back, hSources, hFront, _⟩ := exists_split_of_nodup hSound.urls hSource
  simp only [get?, hKept.normalUrl_eq, hSources, Bool.or_self]
  rw [List.find?_append, List.find?_eq_none.mpr]
  · simp
  · intro other hOther
    simpa using hFront other hOther

theorem IsSound.removable?_url (hSource : source ∈ catalog.user) :
    catalog.removable? source.url = some source := by
  have hUser : catalog.isUser source = true :=
    List.any_eq_true.mpr ⟨source, hSource, beq_self_eq_true source.url⟩
  rw [removable?, hSound.get?_url (List.mem_append_right _ hSource), Option.filter_some, hUser]
  rfl

/-- Removing the address of a source of the user takes away this source alone. -/
theorem IsSound.remove_url (hSource : source ∈ catalog.user) :
    ∃ front back, catalog.user = front ++ source :: back ∧ source ∉ front ++ back ∧
      catalog.remove source.url = { catalog with user := front ++ back } := by
  have hDistinct : (catalog.user.map (·.url)).Nodup :=
    hSound.urls.sublist ((List.sublist_append_right _ _).map _)
  obtain ⟨front, back, hUser, hFront, hBack⟩ := exists_split_of_nodup hDistinct hSource
  refine ⟨front, back, hUser, ?_, ?_⟩
  · intro hIn
    rcases List.mem_append.mp hIn with hIn | hIn
    · exact hFront source hIn rfl
    · exact hBack source hIn rfl
  · have hErased : catalog.user.eraseP (·.same source) = front ++ back := by
      rw [hUser, List.eraseP_append_right _ fun other hOther => ?_]
      · simp [Source.same]
      · simpa [Source.same] using hFront other hOther
    simp only [Catalog.remove, hSound.removable?_url hSource, hErased]

end Lookup

end Catalog

end SdkFeed
