import SdkFeed.Proofs.Catalog.History
import SdkFeed.Proofs.Load.Settling

/-! Where the sources of a catalog come from. Each source of the user goes back to the event that
registered it, through all the loads since; and the sources stand in the order of these events. -/
namespace SdkFeed

section Forall₂

variable {α β γ : Type} {relates : α → β → Prop} {as : List α} {bs : List β}

theorem exists_sublist_of_forall₂ {some : List α} (hSublist : some.Sublist as)
    (hRelates : List.Forall₂ relates as bs) :
    ∃ others, others.Sublist bs ∧ List.Forall₂ relates some others := by
  induction hSublist generalizing bs with
  | slnil => exact ⟨[], List.nil_sublist _, .nil⟩
  | cons a _ ih =>
      obtain ⟨b, rest, _, hRest, rfl⟩ := List.forall₂_cons_left_iff.mp hRelates
      obtain ⟨others, hOthers, hFound⟩ := ih hRest
      exact ⟨others, hOthers.cons b, hFound⟩
  | cons_cons a _ ih =>
      obtain ⟨b, rest, hHere, hRest, rfl⟩ := List.forall₂_cons_left_iff.mp hRelates
      obtain ⟨others, hOthers, hFound⟩ := ih hRest
      exact ⟨b :: others, hOthers.cons_cons b, .cons hHere hFound⟩

theorem forall₂_comp {follows : β → γ → Prop} {cs : List γ} (hRelates : List.Forall₂ relates as bs)
    (hFollows : List.Forall₂ follows bs cs) :
    List.Forall₂ (fun a c => ∃ b, relates a b ∧ follows b c) as cs := by
  induction hRelates generalizing cs with
  | nil =>
      cases hFollows
      exact .nil
  | cons hHere _ ih =>
      obtain ⟨c, rest, hNext, hRest, rfl⟩ := List.forall₂_cons_left_iff.mp hFollows
      exact .cons ⟨_, hHere, hNext⟩ (ih hRest)

end Forall₂

namespace Catalog

/-- What an event turns a source into that stays in the catalog. -/
def Event.Turns : Event → Source → Source → Prop
  | .add _, after, before | .remove _, after, before => after = before
  | .refresh services forceOpen _, after, before => IsLoaded services forceOpen after before

/-- A source of the user was registered by the event of a number, and has stayed in the catalog through
all the later ones. -/
inductive Registered (start : Catalog) : List Event → Source → Nat → Prop where
  | added {earlier : List Event} {source : Source}
      (hNew : (start.after earlier).contains source = false) :
      Registered start (.add source :: earlier) source earlier.length
  | stayed {event : Event} {earlier : List Event} {before after : Source} {number : Nat}
      (hEarlier : Registered start earlier before number) (hTurns : event.Turns after before)
      (hStays : after ∈ (start.after (event :: earlier)).user) :
      Registered start (event :: earlier) after number

variable {start catalog : Catalog} {events : List Event} {event : Event} {includeBuiltin : Bool}

/-- An event takes sources of the user away, or puts a new one behind them; it changes no order. -/
theorem next_user (hAllows : catalog.Allows event) :
    ∃ turned, List.Forall₂ event.Turns turned catalog.user ∧
      ((catalog.next event).user.Sublist turned ∨ ∃ source, event = .add source ∧
        catalog.contains source = false ∧ (catalog.next event).user = turned ++ [source]) := by
  cases event with
  | add source =>
      refine ⟨catalog.user, List.forall₂_same.mpr fun _ _ => rfl, ?_⟩
      cases hNew : catalog.contains source with
      | true => exact .inl (by simp [next, add, hNew])
      | false => exact .inr ⟨source, rfl, hNew, by simp [next, add, hNew]⟩
  | remove url =>
      obtain ⟨sources, hSublist, hRemoved⟩ := remove_eq catalog url
      refine ⟨catalog.user, List.forall₂_same.mpr fun _ _ => rfl, .inl ?_⟩
      rw [next, hRemoved]
      exact hSublist
  | refresh services forceOpen state =>
      obtain ⟨builtin, user, _, hUser, hCatalog⟩ := refresh_catalog hAllows
      refine ⟨user, hUser, .inl ?_⟩
      rw [next, hCatalog]
      exact distinct_sublist _ _

/-- The numbers of the events that registered the sources of the user grow along these sources. -/
theorem exists_numbers (hStart : start.user = []) (hProceeds : start.Proceeds events) :
    ∃ numbers : List Nat, numbers.Pairwise (· < ·) ∧ (∀ number ∈ numbers, number < events.length) ∧
      List.Forall₂ (Registered start events) (start.after events).user numbers := by
  induction events with
  | nil => exact ⟨[], .nil, nofun, by rw [after, hStart]; exact .nil⟩
  | cons event earlier ih =>
      obtain ⟨numbers, hGrow, hBound, hNumbers⟩ := ih hProceeds.1
      obtain ⟨turned, hTurned, hUser⟩ := next_user hProceeds.2
      -- What the event leaves of a source keeps its number; a source that it adds takes the next one.
      have hComposed := forall₂_comp hTurned hNumbers
      have hStep {sources : List Source} {chosen : List Nat}
          (hIn : ∀ source ∈ sources, source ∈ (start.after (event :: earlier)).user)
          (hChosen : List.Forall₂ (fun after number => ∃ before, event.Turns after before ∧
            Registered start earlier before number) sources chosen) :
          List.Forall₂ (Registered start (event :: earlier)) sources chosen := by
        refine ((List.forall₂_and_left _ _).mpr ⟨hIn, hChosen⟩).imp ?_
        rintro after number ⟨hStays, before, hTurns, hEarlier⟩
        exact .stayed hEarlier hTurns hStays
      rcases hUser with hSublist | ⟨source, rfl, hNew, hUser⟩
      · obtain ⟨chosen, hChosen, hFound⟩ := exists_sublist_of_forall₂ hSublist hComposed
        refine ⟨chosen, hGrow.sublist hChosen, ?_, hStep (fun _ hIn => hIn) hFound⟩
        intro number hNumber
        exact Nat.lt_succ_of_lt (hBound number (hChosen.subset hNumber))
      · have hAfter : (start.after (.add source :: earlier)).user = turned ++ [source] := hUser
        refine ⟨numbers ++ [earlier.length], ?_, ?_, ?_⟩
        · rw [List.pairwise_append]
          refine ⟨hGrow, List.pairwise_singleton _ _, ?_⟩
          intro number hNumber last hLast
          rw [List.mem_singleton.mp hLast]
          exact hBound number hNumber
        · intro number hNumber
          rcases List.mem_append.mp hNumber with hOld | hLast
          · exact Nat.lt_succ_of_lt (hBound number hOld)
          · rw [List.mem_singleton.mp hLast]
            exact Nat.lt_succ_self _
        · rw [hAfter]
          refine List.rel_append (hStep ?_ hComposed) (.cons (.added hNew) .nil)
          intro other hOther
          rw [hAfter]
          exact List.mem_append_left _ hOther

/-- What a user can rely on in a catalog, given all that was done since it was empty. -/
structure IsOrderly (path : Option Path) (includeBuiltin : Bool) (history : List Event)
    (catalog : Catalog) : Prop where
  distinct : (catalog.sources.map (·.url)).Nodup
  builtin : if includeBuiltin then
      ∃ builtin, catalog.sources = builtin :: catalog.user ∧ IsBuiltin builtin ∧
        catalog.removable? builtin.url = none
    else catalog.sources = catalog.user
  order : ∃ numbers : List Nat, numbers.Pairwise (· < ·) ∧
    List.Forall₂ (Registered (fresh path includeBuiltin) history) catalog.user numbers
  get : ∀ source ∈ catalog.sources, catalog.get? source.url = some source
  remove : ∀ source ∈ catalog.user, catalog.removable? source.url = some source ∧
    ∃ front back, catalog.user = front ++ source :: back ∧ source ∉ front ++ back ∧
      catalog.remove source.url = { catalog with user := front ++ back }

theorem IsSound.builtin_stays (hSound : IsSound true catalog) :
    ∃ builtin, catalog.sources = builtin :: catalog.user ∧ IsBuiltin builtin ∧
      catalog.removable? builtin.url = none := by
  obtain ⟨builtin, hBuiltin⟩ := List.length_eq_one_iff.mp hSound.count
  have hSources : catalog.sources = builtin :: catalog.user := by
    rw [sources, hBuiltin]
    rfl
  refine ⟨builtin, hSources, hSound.builtin builtin (by simp [hBuiltin]), ?_⟩
  have hUser : catalog.isUser builtin = false := by
    have hUrls := hSound.urls
    rw [hSources, List.map_cons, List.nodup_cons] at hUrls
    rw [isUser, List.any_eq_false]
    intro other hOther hSame
    exact hUrls.1 (beq_iff_eq.mp hSame ▸ List.mem_map_of_mem hOther)
  rw [removable?, hSound.get?_url (by simp [hSources]), Option.filter_some, hUser]
  rfl

/-- Whatever sources a catalog is made of, and whatever is registered, removed and loaded afterwards, no
two of its sources have one address; the built-in source stays first, where it was; the sources of the
user stay in the order of registration; and each source is found, and can be removed, by its address. -/
theorem reached_catalog_isOrderly {path : Option Path} {sources : List Source}
    (hSources : ∀ source ∈ sources, source.IsMade)
    (hProceeds : (ofSources path includeBuiltin sources).Proceeds events) :
    IsOrderly path includeBuiltin (events ++ registrations sources)
      ((ofSources path includeBuiltin sources).after events) := by
  rw [ofSources_eq_after] at hProceeds ⊢
  have hHistory := proceeds_append.mpr ⟨proceeds_registrations.mpr hSources, hProceeds⟩
  rw [← after_append]
  have hSound := (isSound_fresh path includeBuiltin).after hHistory
  obtain ⟨numbers, hGrow, _, hNumbers⟩ := exists_numbers rfl hHistory
  refine ⟨hSound.urls, ?_, ⟨numbers, hGrow, hNumbers⟩, ?_, ?_⟩
  · cases includeBuiltin with
    | true => exact hSound.builtin_stays
    | false =>
        have hNone := List.length_eq_zero_iff.mp hSound.count
        simp [Catalog.sources, hNone]
  · intro source hSource
    exact hSound.get?_url hSource
  · intro source hSource
    exact ⟨hSound.removable?_url hSource, hSound.remove_url hSource⟩

/-- An empty index of an add-on site. -/
def addonIndex : List UInt8 :=
  Load.asciiBytes (List.flatMap String.toList
    ["<sdk-addon xmlns=", "\"http://schemas.android.com", "/sdk/android/addon/2\"/>"])

/-- Two sources that differ until the first one is loaded. -/
def siteSources : List Source :=
  [.ofUrl "http://site.test" none .addon, .ofUrl "http://site.test/" (some "Site") .addon]

/-- A refresh with the index of the site there, and then another registration. -/
def siteEvents : List Event :=
  [.add (.ofUrl "http://other.test" none .repository),
   .refresh (.withValidator (Load.servingAt "http://site.test/addon.xml" addonIndex) .standard)
     false ()]

/-- The second source is dropped when the first one turns out to be at its address. -/
theorem site_isOrderly :
    (∀ source ∈ siteSources, source.IsMade) ∧
    (ofSources none true siteSources).Proceeds siteEvents ∧
    ((ofSources none true siteSources).after siteEvents).user.map (·.url) =
      ["http://site.test/addon.xml", "http://other.test"] ∧
    IsOrderly none true (siteEvents ++ registrations siteSources)
      ((ofSources none true siteSources).after siteEvents) := by
  have hSources : ∀ source ∈ siteSources, source.IsMade := by
    simp [siteSources, Source.isMade_ofUrl]
  have hReturns : crash? (refresh
      (.withValidator (Load.servingAt "http://site.test/addon.xml" addonIndex) .standard) false
        (ofSources none true siteSources) ()).visits = none := by
    decide +kernel
  have hProceeds : (ofSources none true siteSources).Proceeds siteEvents :=
    ⟨⟨trivial, hReturns⟩, Source.isMade_ofUrl _ _ _⟩
  have hUrls : ((ofSources none true siteSources).after siteEvents).user.map (·.url) =
      ["http://site.test/addon.xml", "http://other.test"] := by
    decide +kernel
  exact ⟨hSources, hProceeds, hUrls, reached_catalog_isOrderly hSources hProceeds⟩

end Catalog

end SdkFeed
