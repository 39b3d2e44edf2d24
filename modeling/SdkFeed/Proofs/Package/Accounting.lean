import SdkFeed.Proofs.Package.Stability

/-! What a listing accounts for. Each child of the root that describes a package is either listed or
reported as invalid, and never both; the rest is passed over in silence. -/
namespace SdkFeed

namespace Report

/-- What a report tells of the work going on. -/
def description? : Report → Option String
  | .description message => some message
  | _ => none

/-- What a report tells the user. -/
def result? : Report → Option String
  | .result message => some message
  | _ => none

end Report

namespace Record

theorem foldl_add (reports : List Report) (record : Record) :
    (reports.foldl add record).descriptions =
        record.descriptions ++ reports.filterMap Report.description? ∧
      (reports.foldl add record).results = record.results ++ reports.filterMap Report.result? := by
  induction reports generalizing record with
  | nil => simp
  | cons report reports ih =>
      rw [List.foldl_cons, (ih _).1, (ih _).2, List.filterMap_cons, List.filterMap_cons]
      cases report <;> simp [add, Report.description?, Report.result?]

theorem ofReports_descriptions (reports : List Report) :
    (ofReports reports).descriptions = reports.filterMap Report.description? :=
  (foldl_add reports empty).1

theorem ofReports_results (reports : List Report) :
    (ofReports reports).results = reports.filterMap Report.result? :=
  (foldl_add reports empty).2

end Record

namespace Package

open SdkFeed.Xml

def codePoints (text : String) : List Nat :=
  text.toList.map Char.toNat

theorem codePoints_lt {first second : String} :
    codePoints first < codePoints second ↔ first < second := by
  show first.toList.map Char.toNat < second.toList.map Char.toNat ↔ first.toList < second.toList
  generalize first.toList = xs
  generalize second.toList = ys
  induction xs generalizing ys with
  | nil => cases ys <;> simp
  | cons x xs ih =>
      cases ys with
      | nil => simp
      | cons y ys =>
          rw [List.map_cons, List.map_cons, List.cons_lt_cons_iff, List.cons_lt_cons_iff, ih ys]
          have hSame : x.toNat = y.toNat ↔ x = y := Char.toNat_inj
          rw [hSame]
          rfl

/-- Of two packages the first may be listed ahead of the second: kinds come by their rank, then the
highest level first, then names by their code points, then the newest revision first. -/
def MayPrecede (first second : Package) : Prop :=
  first.kind.rank < second.kind.rank ∨ first.kind.rank = second.kind.rank ∧
    (second.apiLevel < first.apiLevel ∨ second.apiLevel = first.apiLevel ∧
      (codePoints first.variant.nameKey < codePoints second.variant.nameKey ∨
        first.variant.nameKey = second.variant.nameKey ∧ second.revision ≤ first.revision))

theorem mayPrecede_iff {first second : Package} :
    MayPrecede first second ↔ second.precedes first = false := by
  rw [Bool.eq_false_iff, Ne, precedes, SortKey.precedes_iff, MayPrecede, codePoints_lt]
  simp only [sortKey]
  grind

/-- A list of packages put in listing order: none is lost or doubled, each one may stand ahead of those
behind it, and packages with one key are in the order they were found in. -/
structure IsListing (found listed : List Package) : Prop where
  isPerm : listed.Perm found
  isOrdered : listed.Pairwise MayPrecede
  isStable : ∀ key, withKey key listed = withKey key found

theorem isListing_sorted (packages : List Package) : IsListing packages (sorted packages) where
  isPerm := sorted_perm packages
  isOrdered := (sorted_pairwise packages).imp mayPrecede_iff.mpr
  isStable key := withKey_sorted key packages

/-- What comes of reading an element that describes a package. -/
structure Reading where
  element : Tree
  outcome : Except Fault Package

namespace Reading

def package? (reading : Reading) : Option Package :=
  reading.outcome.toOption

def foundMessage (package : Package) : String :=
  "Found " ++ package.shortDescription

def ignoredMessage (element : Tree) (fault : Fault) : String :=
  "Ignoring invalid " ++ element.name.label ++ " element: " ++ fault.reason

def report : Reading → Report
  | ⟨_, .ok package⟩ => .description (foundMessage package)
  | ⟨element, .error fault⟩ => .result (ignoredMessage element fault)

/-- What the user is told of an element that cannot be read. -/
def complaint? : Reading → Option String
  | ⟨_, .ok _⟩ => none
  | ⟨element, .error fault⟩ => some (ignoredMessage element fault)

def entry : Reading → Entry
  | ⟨_, .ok package⟩ => .found package
  | ⟨element, .error fault⟩ => .faulty element.name.label fault

theorem package?_entry (reading : Reading) : reading.entry.package? = reading.package? := by
  obtain ⟨element, outcome⟩ := reading
  cases outcome <;> rfl

theorem report_entry (reading : Reading) : reading.entry.report = reading.report := by
  obtain ⟨element, outcome⟩ := reading
  cases outcome <;> rfl

theorem description?_report (reading : Reading) :
    reading.report.description? = reading.package?.map foundMessage := by
  obtain ⟨element, outcome⟩ := reading
  cases outcome <;> rfl

theorem result?_report (reading : Reading) : reading.report.result? = reading.complaint? := by
  obtain ⟨element, outcome⟩ := reading
  cases outcome <;> rfl

/-- A reading counts once, as a package or as a complaint. -/
theorem length_packages_add_complaints (readings : List Reading) :
    (readings.filterMap package?).length + (readings.filterMap complaint?).length =
      readings.length := by
  induction readings with
  | nil => rfl
  | cons reading readings ih =>
      obtain ⟨element, outcome⟩ := reading
      rw [List.filterMap_cons, List.filterMap_cons, List.length_cons, ← ih]
      cases outcome with
      | ok package => exact Nat.add_right_comm ..
      | error fault => rfl

end Reading

/-- Whether an element is one that describes a package, and its source may publish it. -/
def isDescription (source : Feed.Kind) (space : String) (child : Tree) : Bool :=
  child.name.space == space && (kindOf? source child.name.label).isSome

/-- Each child of the root that describes a package is read with the licences of the whole document. -/
def readings (source : Feed.Kind) (space sourceUrl : String) (root : Tree) : List Reading :=
  root.children.filterMap fun child =>
    if child.name.space = space then
      (kindOf? source child.name.label).map fun kind =>
        ⟨child, ofElementOfKind kind child space (licensesOf root space) sourceUrl⟩
    else none

variable {source : Feed.Kind} {space sourceUrl : String} {root : Tree} {packages : List Package}

theorem map_element_readings (sourceUrl : String) :
    (readings source space sourceUrl root).map Reading.element =
      root.children.filter (isDescription source space) := by
  rw [readings, List.map_filterMap, ← List.filterMap_eq_filter]
  apply List.filterMap_congr
  intro child _
  by_cases hSpace : child.name.space = space
  · cases hKind : kindOf? source child.name.label <;>
      simp [Option.guard, isDescription, hSpace, hKind]
  · simp [Option.guard, isDescription, hSpace]

theorem entries_eq_readings :
    entries source space sourceUrl root = (readings source space sourceUrl root).map Reading.entry := by
  rw [entries, readings, List.map_filterMap]
  apply List.filterMap_congr
  intro child _
  by_cases hSpace : child.name.space = space
  · cases hKind : kindOf? source child.name.label with
    | none => simp [Entry.ofChild?, ofElement, hSpace, hKind]
    | some kind =>
        cases hRead : ofElementOfKind kind child space (licensesOf root space) sourceUrl <;>
          simp [Entry.ofChild?, ofElement, Reading.entry, hSpace, hKind, hRead]
  · simp [Entry.ofChild?, hSpace]

theorem ofDocument_eq_readings
    (hPackages : (Index.ofDocument source space sourceUrl root).packages = some packages) :
    packages = sorted ((readings source space sourceUrl root).filterMap Reading.package?) ∧
      (Index.ofDocument source space sourceUrl root).reports =
        (readings source space sourceUrl root).map Reading.report := by
  have hFound : (entries source space sourceUrl root).filterMap Entry.package? =
      (readings source space sourceUrl root).filterMap Reading.package? := by
    rw [entries_eq_readings, List.filterMap_map]
    exact List.filterMap_congr fun reading _ => reading.package?_entry
  have hReports : (entries source space sourceUrl root).map Entry.report =
      (readings source space sourceUrl root).map Reading.report := by
    rw [entries_eq_readings, List.map_map]
    exact List.map_congr_left fun reading _ => reading.report_entry
  by_cases hNamed : isNamed root space source.family.root = true
  · rw [Index.ofDocument, if_pos hNamed] at hPackages ⊢
    rw [← hFound, ← hReports]
    exact ⟨(Option.some.inj hPackages).symm, rfl⟩
  · rw [Index.ofDocument, if_neg hNamed] at hPackages
    cases hPackages

/-- A listing and some reports account for the elements that describe packages. Every one of them is
read; what can be read is listed; in the order of the document there is one report of each package
found and one of each element ignored; and nothing is counted twice. -/
structure Accounts (elements : List Tree) (readings : List Reading) (packages : List Package)
    (reports : List Report) : Prop where
  allRead : readings.map Reading.element = elements
  isListing : IsListing (readings.filterMap Reading.package?) packages
  inOrder : reports = readings.map Reading.report
  found : (Record.ofReports reports).descriptions =
    (readings.filterMap Reading.package?).map Reading.foundMessage
  ignored : (Record.ofReports reports).results = readings.filterMap Reading.complaint?
  count : packages.length + (Record.ofReports reports).results.length = elements.length

/-- An index accounts for all children of its root that describe packages. -/
theorem index_accounts
    (hPackages : (Index.ofDocument source space sourceUrl root).packages = some packages) :
    Accounts (root.children.filter (isDescription source space))
      (readings source space sourceUrl root) packages
      (Index.ofDocument source space sourceUrl root).reports := by
  obtain ⟨hSorted, hReports⟩ := ofDocument_eq_readings hPackages
  have hListing := isListing_sorted
    ((readings source space sourceUrl root).filterMap Reading.package?)
  rw [← hSorted] at hListing
  have hIgnored : (Record.ofReports
      (Index.ofDocument source space sourceUrl root).reports).results =
        (readings source space sourceUrl root).filterMap Reading.complaint? := by
    rw [Record.ofReports_results, hReports, List.filterMap_map]
    exact List.filterMap_congr fun reading _ => reading.result?_report
  refine ⟨map_element_readings sourceUrl, hListing, hReports, ?_, hIgnored, ?_⟩
  · rw [Record.ofReports_descriptions, hReports, List.filterMap_map, List.map_filterMap]
    exact List.filterMap_congr fun reading _ => reading.description?_report
  · rw [hIgnored, hListing.isPerm.length_eq, Reading.length_packages_add_complaints,
      ← map_element_readings sourceUrl, List.length_map]

/-- An index with two platforms, two platform tools and a tool without a revision among them. -/
def mixedRoot : Tree :=
  let space := Feed.Family.repository.latestSpace
  let node (label : String) (children : List Tree) : Tree :=
    .mk ⟨space, label⟩ [] 1 (children.map Item.child)
  let text (label content : String) : Tree := .mk ⟨space, label⟩ [] 1 [.text content]
  node "sdk-repository"
    [node "platform-tool" [text "revision" "4"],
     node "platform" [text "revision" "1", text "version" "2.2", text "api-level" "8"],
     node "tool" [],
     node "gadget" [],
     node "platform-tool" [text "revision" "5"],
     node "platform" [text "revision" "1", text "version" "3.1", text "api-level" "12"]]

/-- Four packages of the mixed index are listed, and its tool is reported. -/
theorem mixedRoot_accounts : ∃ packages,
    (Index.ofDocument .repository Feed.Family.repository.latestSpace "u" mixedRoot).packages =
        some packages ∧
      Accounts
        (mixedRoot.children.filter (isDescription .repository Feed.Family.repository.latestSpace))
        (readings .repository Feed.Family.repository.latestSpace "u" mixedRoot) packages
        (Index.ofDocument .repository Feed.Family.repository.latestSpace "u" mixedRoot).reports ∧
      packages.length = 4 ∧
      (Record.ofReports (Index.ofDocument .repository Feed.Family.repository.latestSpace "u"
        mixedRoot).reports).results = ["Ignoring invalid tool element: missing <revision>"] := by
  have hNamed : isNamed mixedRoot Feed.Family.repository.latestSpace
      Feed.Kind.repository.family.root = true := by decide +kernel
  have hPackages : (Index.ofDocument .repository Feed.Family.repository.latestSpace "u"
      mixedRoot).packages = some (sorted ((entries .repository
        Feed.Family.repository.latestSpace "u" mixedRoot).filterMap Entry.package?)) := by
    rw [Index.ofDocument, if_pos hNamed]
  have hAccounts := index_accounts hPackages
  have hIgnored : (Record.ofReports (Index.ofDocument .repository
      Feed.Family.repository.latestSpace "u" mixedRoot).reports).results =
        ["Ignoring invalid tool element: missing <revision>"] := by decide +kernel
  refine ⟨_, hPackages, hAccounts, ?_, hIgnored⟩
  have hCount := hAccounts.count
  rw [hIgnored, show (mixedRoot.children.filter (isDescription .repository
    Feed.Family.repository.latestSpace)).length = 5 by decide +kernel] at hCount
  exact Nat.succ.inj hCount

end Package
end SdkFeed
