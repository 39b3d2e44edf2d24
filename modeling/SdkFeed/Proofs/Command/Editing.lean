import Mathlib.Data.List.Infix
import SdkFeed.Command.Run
import SdkFeed.Proofs.Catalog.Storage

/-! The commands that change the sources of the user. Each one reads the catalog from its file, and writes
it again if it changes anything; a sequence of them comes to what the same changes make of one catalog
that is kept in memory. Sequences are listed with the last command first. -/
namespace SdkFeed

open SdkFeed.Console

/-- A change of the sources of the user. -/
inductive Edit where
  | add (url : String) (name : Option String) (kind : Feed.Kind)
  | remove (url : String)

namespace Edit

/-- The command that makes a change. -/
def command : Edit → Command
  | add url name kind => .addSource url name kind
  | remove url => .removeSource url

/-- The change made to a catalog. -/
def event : Edit → Catalog.Event
  | add url name kind => .add (.ofUrl url name kind)
  | remove url => .remove url

/-- Whether a change registers no source at a blank address. -/
def isFilled : Edit → Bool
  | add url _ _ => !(Text.trim url).isEmpty
  | remove _ => true

/-- Whether there is nothing to change: the source is registered already, or it is none of the user's. -/
def isRefused (catalog : Catalog) : Edit → Bool
  | add url name kind => catalog.contains (.ofUrl url name kind)
  | remove url => (catalog.removable? url).isNone

/-- What is said where there is nothing to change. -/
def refusal (files : Files) : Edit → Answer
  | add url name kind =>
    .keeping files (say .yellow ("Source already registered: " ++ (Source.ofUrl url name kind).url))
      .success
  | remove url => .keeping files (say .red ("No user source with URL " ++ url)) .failure

/-- What is said after a change. -/
def confirmation : Edit → String
  | add url name kind => say .green ("✓ Added " ++ (Source.ofUrl url name kind).url)
  | remove url => say .green ("✓ Removed " ++ url)

end Edit

/-- The catalog in memory after some changes, which was made empty. -/
def Catalog.edited (path : Path) (edits : List Edit) : Catalog :=
  (fresh (some path) true).after (edits.map Edit.event)

/-- What a command answers when it meets these files. -/
def Surroundings.edit (around : Surroundings) (settings : Settings) (files : Files) (edit : Edit) :
    Answer :=
  edit.command.run { around with files } settings

/-- The files after some commands. -/
def Surroundings.filesAfter (around : Surroundings) (settings : Settings) : List Edit → Files
  | [] => around.files
  | edit :: earlier => (around.edit settings (around.filesAfter settings earlier) edit).files

variable {around : Surroundings} {settings : Settings} {files stored : Files} {path : Path}
  {catalog : Catalog} {edit : Edit} {edits : List Edit} {bytes : List UInt8}

namespace Catalog

/-- Some files keep a catalog: it comes back from them, and it can be written to them. -/
structure IsKeptBy (path : Path) (files : Files) (catalog : Catalog) : Prop where
  isEdited : IsEdited path catalog
  loaded : load files path true = .ok catalog.tidied
  writable : ∀ bytes, ∃ changed, files.write path bytes = (changed, .ok ())

theorem edited_nil (path : Path) : edited path [] = fresh (some path) true := by
  rw [edited, List.map_nil, after]

theorem edited_cons (path : Path) (edit : Edit) (edits : List Edit) :
    edited path (edit :: edits) = (edited path edits).next edit.event := by
  rw [edited, List.map_cons, after, edited]

theorem next_of_isRefused (hRefused : edit.isRefused catalog = true) :
    catalog.next edit.event = catalog := by
  cases edit with
  | add url name kind =>
      show catalog.add (.ofUrl url name kind) = catalog
      rw [add]
      exact if_pos hRefused
  | remove url =>
      show catalog.remove url = catalog
      rw [remove, Option.isNone_iff_eq_none.mp hRefused]

theorem IsEdited.next (hEdited : IsEdited path catalog) (hFilled : edit.isFilled = true) :
    IsEdited path (catalog.next edit.event) := by
  cases edit with
  | add url name kind => exact hEdited.add ⟨url, name, kind, by simpa [Edit.isFilled] using hFilled, rfl⟩
  | remove url => exact hEdited.remove url

end Catalog

open Catalog (IsKeptBy IsReadBack)

theorem saveCatalog_eq {message : String}
    (hWrite : files.write path catalog.text.toUTF8.toList = (stored, .ok ())) :
    Command.saveCatalog files path catalog message = .keeping stored (say .green message) .success := by
  have hPath : (some path <|> catalog.path) = some path := rfl
  simp only [Command.saveCatalog, Catalog.save, hPath, hWrite]

/-- A command that has nothing to change says so and leaves the files alone. -/
theorem edit_of_isRefused (hKept : IsKeptBy settings.sourcesPath files catalog)
    (hRefused : edit.isRefused catalog = true) :
    around.edit settings files edit = edit.refusal files := by
  cases edit with
  | add url name kind =>
      simp only [Surroundings.edit, Edit.command, Command.run, Command.withCatalog, hKept.loaded,
        Command.addAnswer, Catalog.contains_tidied]
      exact if_pos hRefused
  | remove url =>
      simp only [Surroundings.edit, Edit.command, Command.run, Command.withCatalog, hKept.loaded,
        Command.removeAnswer, Catalog.removable?_tidied, Option.isNone_map]
      exact if_pos hRefused

/-- A command that changes something writes the catalog as it would be changed in memory. -/
theorem edit_of_not_isRefused (around : Surroundings) (hKept : IsKeptBy settings.sourcesPath files catalog)
    (hRefused : edit.isRefused catalog = false) :
    ∃ stored, files.write settings.sourcesPath (catalog.next edit.event).text.toUTF8.toList =
        (stored, .ok ()) ∧
      around.edit settings files edit = .keeping stored edit.confirmation .success := by
  obtain ⟨stored, hWrite⟩ := hKept.writable (catalog.next edit.event).text.toUTF8.toList
  refine ⟨stored, hWrite, ?_⟩
  cases edit with
  | add url name kind =>
      have hNew : catalog.contains (.ofUrl url name kind) = false := hRefused
      have hText := Catalog.text_add_tidied catalog (.ofUrl url name kind)
      simp only [Surroundings.edit, Edit.command, Command.run, Command.withCatalog, hKept.loaded,
        Command.addAnswer, Catalog.contains_tidied, hNew]
      exact saveCatalog_eq (hText ▸ hWrite)
  | remove url =>
      have hThere : (catalog.removable? url).isNone = false := hRefused
      have hText := Catalog.text_remove_tidied catalog url
      simp only [Surroundings.edit, Edit.command, Command.run, Command.withCatalog, hKept.loaded,
        Command.removeAnswer, Catalog.removable?_tidied, Option.isNone_map, hThere]
      exact saveCatalog_eq (hText ▸ hWrite)

/-- A command keeps the catalog that it makes of the one that was kept. -/
theorem Catalog.IsKeptBy.next (hKept : IsKeptBy settings.sourcesPath files catalog)
    (hFilled : edit.isFilled = true) (hReadBack : IsReadBack (catalog.next edit.event).records) :
    IsKeptBy settings.sourcesPath (around.edit settings files edit).files
      (catalog.next edit.event) := by
  cases hRefused : edit.isRefused catalog with
  | true =>
      have hFiles : (edit.refusal files).files = files := by cases edit <;> rfl
      rw [edit_of_isRefused hKept hRefused, hFiles, Catalog.next_of_isRefused hRefused]
      exact hKept
  | false =>
      obtain ⟨stored, hWrite, hAnswer⟩ := edit_of_not_isRefused around hKept hRefused
      have hEdited := hKept.isEdited.next hFilled
      rw [hAnswer]
      exact ⟨hEdited, hEdited.load_eq (Files.find_write hWrite) hReadBack, Files.write_again hWrite⟩

theorem filesAfter_isKeptBy
    (hMissing : around.files.find settings.sourcesPath = .ok .nothing)
    (hWritable : (around.files.write settings.sourcesPath []).2 = .ok ())
    (hFilled : ∀ edit ∈ edits, edit.isFilled = true)
    (hReadBack : ∀ earlier, earlier <:+ edits →
      IsReadBack (Catalog.edited settings.sourcesPath earlier).records) :
    IsKeptBy settings.sourcesPath (around.filesAfter settings edits)
      (Catalog.edited settings.sourcesPath edits) := by
  induction edits with
  | nil =>
      have hWrite : around.files.write settings.sourcesPath [] =
          ((around.files.write settings.sourcesPath []).1, .ok ()) := by
        rw [← hWritable]
      rw [Catalog.edited_nil, Surroundings.filesAfter]
      refine ⟨Catalog.isEdited_fresh _, ?_, Files.write_other hWrite⟩
      rw [Catalog.load, hMissing, Catalog.tidied_fresh]
  | cons edit earlier ih =>
      obtain ⟨hHere, hEarlier⟩ := List.forall_mem_cons.mp hFilled
      have hKept := ih hEarlier fun older hOlder => hReadBack older (hOlder.trans (List.suffix_cons _ _))
      have hNow := hReadBack _ (List.suffix_refl _)
      rw [Catalog.edited_cons] at hNow ⊢
      exact hKept.next hHere hNow

/-- After any sequence of commands that register and remove sources, beginning without a sources file,
the next command reads from the file just the catalog that the same changes make in memory, but for empty
names. It leaves the files alone where it has nothing to change, and otherwise its change is written. The
addresses of the commands must not be blank, and the records of the catalogs on the way must be read as
they are written. -/
theorem edits_agree
    (hMissing : around.files.find settings.sourcesPath = .ok .nothing)
    (hWritable : (around.files.write settings.sourcesPath []).2 = .ok ())
    (hFilled : ∀ edit ∈ edits, edit.isFilled = true)
    (hReadBack : ∀ earlier, earlier <:+ edits →
      IsReadBack (Catalog.edited settings.sourcesPath earlier).records) :
    Catalog.load (around.filesAfter settings edits) settings.sourcesPath true =
      .ok (Catalog.edited settings.sourcesPath edits).tidied ∧
    ∀ edit : Edit,
      (edit.isRefused (Catalog.edited settings.sourcesPath edits) = true →
        around.edit settings (around.filesAfter settings edits) edit =
          edit.refusal (around.filesAfter settings edits)) ∧
      (edit.isRefused (Catalog.edited settings.sourcesPath edits) = false →
        ∃ stored, around.edit settings (around.filesAfter settings edits) edit =
          .keeping stored edit.confirmation .success) := by
  have hKept := filesAfter_isKeptBy hMissing hWritable hFilled hReadBack
  refine ⟨hKept.loaded, fun edit => ⟨edit_of_isRefused hKept, ?_⟩⟩
  intro hRefused
  obtain ⟨stored, _, hAnswer⟩ := edit_of_not_isRefused around hKept hRefused
  exact ⟨stored, hAnswer⟩

/-- A user without any files. -/
def newUser : Surroundings where
  files := .empty
  web := fun _ => .error (.failure (.notFound ""))
  environment := []
  home := ⟨"/", ["home", "user"]⟩

/-- Two sources are registered, one with an empty name and one in a directory, which is removed again. -/
def newEdits : List Edit :=
  [.remove "http://b/", .add " http://b/ " none .addon, .add "http://a" (some "") .repository]

theorem newUser_edits_agree :
    newUser.files.find (Settings.standard newUser.home).sourcesPath = .ok .nothing ∧
    (newUser.files.write (Settings.standard newUser.home).sourcesPath []).2 = .ok () ∧
    (∀ edit ∈ newEdits, edit.isFilled = true) ∧
    (∀ earlier, earlier <:+ newEdits →
      IsReadBack (Catalog.edited (Settings.standard newUser.home).sourcesPath earlier).records) ∧
    Catalog.load (newUser.filesAfter (Settings.standard newUser.home) newEdits)
        (Settings.standard newUser.home).sourcesPath true =
      .ok (Catalog.edited (Settings.standard newUser.home).sourcesPath newEdits).tidied := by
  have hMissing : newUser.files.find (Settings.standard newUser.home).sourcesPath = .ok .nothing := by
    decide +kernel
  have hWritable : (newUser.files.write (Settings.standard newUser.home).sourcesPath []).2 =
      .ok () := by
    decide +kernel
  have hFilled : ∀ edit ∈ newEdits, edit.isFilled = true := by decide +kernel
  have hTails : ∀ earlier ∈ newEdits.tails,
      IsReadBack (Catalog.edited (Settings.standard newUser.home).sourcesPath earlier).records := by
    decide +kernel
  have hReadBack (earlier : List Edit) (hEarlier : earlier <:+ newEdits) :
      IsReadBack (Catalog.edited (Settings.standard newUser.home).sourcesPath earlier).records :=
    hTails earlier ((List.mem_tails _ _).mpr hEarlier)
  exact ⟨hMissing, hWritable, hFilled, hReadBack,
    (edits_agree hMissing hWritable hFilled hReadBack).1⟩

end SdkFeed
