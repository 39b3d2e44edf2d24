import SdkFeed.Files
import SdkFeed.Proofs.Success

/-! Files that are written and found again. A file that could be written is found with what was written,
and it can be written again: the directories above it are there, and none of them is in its place. -/
namespace SdkFeed.Files

variable {files stored : Files} {path place other start target : Path} {parts : List String}
  {bytes : List UInt8}

theorem file?_put_of_ne (hOther : other ≠ place) :
    (files.put place bytes).file? other = files.file? other := by
  have hFirst : (other == place) = false := beq_eq_false_iff_ne.mpr hOther
  rw [file?, put, List.lookup_cons, hFirst, file?]
  dsimp only
  induction files.entries with
  | nil => rfl
  | cons entry rest ih =>
      rw [List.lookup_cons]
      by_cases hEntry : entry.1 = place
      · have hLost : (other == entry.1) = false := by rw [hEntry, hFirst]
        rw [List.filter_cons_of_neg (by simp [hEntry]), ih, hLost]
      · rw [List.filter_cons_of_pos (by simp [hEntry]), List.lookup_cons, ih]

/-- What is a directory stays one when a file is put anywhere. -/
theorem isDirectory_put (hDirectory : files.isDirectory other = true) :
    (files.put place bytes).isDirectory other = true := by
  simp only [isDirectory, Bool.or_eq_true, List.any_eq_true] at hDirectory ⊢
  rcases hDirectory with hKnown | ⟨entry, hEntry, hBelow⟩
  · exact .inl hKnown
  · refine .inr ?_
    by_cases hPlace : entry.1 = place
    · exact ⟨(place, bytes), List.mem_cons_self, hPlace ▸ hBelow⟩
    · exact ⟨entry, List.mem_cons_of_mem _ (List.mem_filter.mpr ⟨hEntry, by simp [hPlace]⟩), hBelow⟩

theorem not_isDirectory_put (hPlain : files.isDirectory place = false) :
    (files.put place bytes).isDirectory place = false := by
  simp only [isDirectory, Bool.or_eq_false_iff, List.any_eq_false] at hPlain ⊢
  refine ⟨hPlain.1, ?_⟩
  intro entry hEntry
  rcases List.mem_cons.mp hEntry with rfl | hOld
  · simp
  · exact hPlain.2 entry (List.mem_filter.mp hOld).1

/-- A file where no directory is stands in no way. -/
theorem follow_put (hPlain : files.isDirectory place = false)
    (hFollow : files.follow start parts = .ok target) :
    (files.put place bytes).follow start parts = .ok target := by
  induction parts generalizing start with
  | nil => exact hFollow
  | cons part rest ih =>
      rw [follow] at hFollow ⊢
      split at hFollow
      · cases hFollow
      · rename_i hNoFile
        split at hFollow
        · cases hFollow
        · rename_i hDirectory
          have hStart : files.isDirectory start = true := by simpa using hDirectory
          have hElsewhere : start ≠ place := by
            rintro rfl
            exact absurd (hStart.symm.trans hPlain) nofun
          obtain ⟨next, hEnter, hRest⟩ := bind_eq_ok.mp hFollow
          rw [file?_put_of_ne hElsewhere, if_neg hNoFile, isDirectory_put hStart, if_neg nofun]
          exact bind_eq_ok.mpr ⟨next, hEnter, ih hRest⟩

/-- The last place on a way before its end is a directory. -/
theorem follow_append {part : String} (hFollow : files.follow start (parts ++ [part]) = .ok target) :
    ∃ above, files.follow start parts = .ok above ∧ files.file? above = none ∧
      files.isDirectory above = true := by
  induction parts generalizing start with
  | nil =>
      rw [List.nil_append, follow] at hFollow
      split at hFollow
      · cases hFollow
      · rename_i hNoFile
        split at hFollow
        · cases hFollow
        · rename_i hDirectory
          exact ⟨start, rfl, by simpa using hNoFile, by simpa using hDirectory⟩
  | cons first rest ih =>
      rw [List.cons_append, follow] at hFollow
      rw [follow]
      split at hFollow
      · cases hFollow
      · rename_i hNoFile
        split at hFollow
        · cases hFollow
        · rename_i hDirectory
          obtain ⟨next, hEnter, hRest⟩ := bind_eq_ok.mp hFollow
          obtain ⟨above, hAbove, hHolds⟩ := ih hRest
          rw [if_neg hNoFile, if_neg hDirectory]
          exact ⟨above, bind_eq_ok.mpr ⟨next, hEnter, hAbove⟩, hHolds⟩

theorem place_eq_ok : files.place path = .ok place ↔
    path.hasZeroCode = false ∧ path.isTooLong = false ∧
      files.follow { path with parts := [] } path.parts = .ok place := by
  rw [Files.place]
  cases path.hasZeroCode <;> cases path.isTooLong <;> simp

theorem makeDirectory_of_isDirectory (hPlace : files.place path = .ok place)
    (hNoFile : files.file? place = none) (hDirectory : files.isDirectory place = true) :
    files.makeDirectory path = .ok files := by
  refine bind_eq_ok.mpr ⟨place, hPlace, ?_⟩
  rw [hNoFile, hDirectory]
  rfl

theorem makeAll_of_makeDirectory {root part : String} {above : List String}
    (hMade : files.makeDirectory ⟨root, (part :: above).reverse⟩ = .ok files) :
    files.makeAll root (part :: above) = (files, .ok ()) := by
  simp only [makeAll, hMade]

/-- Directories that were made have a path that can be used. -/
theorem makeAll_place {root part : String} {above : List String}
    (hMade : files.makeAll root (part :: above) = (stored, .ok ())) :
    ∃ (before : Files) (place : Path), before.place ⟨root, (part :: above).reverse⟩ = .ok place := by
  have hPlaced {before made : Files}
      (hDirectory : before.makeDirectory ⟨root, (part :: above).reverse⟩ = .ok made) :
      ∃ place, before.place ⟨root, (part :: above).reverse⟩ = .ok place := by
    obtain ⟨place, hPlace, _⟩ := bind_eq_ok.mp hDirectory
    exact ⟨place, hPlace⟩
  rw [makeAll] at hMade
  dsimp only at hMade
  split at hMade
  · split at hMade
    · split at hMade
      · exact ⟨_, hPlaced ‹_›⟩
      · cases hMade
    · cases hMade
  · split at hMade
    · exact ⟨_, hPlaced ‹_›⟩
    · cases hMade

theorem overwrite_eq_ok : files.overwrite path bytes = .ok stored ↔
    ∃ place, files.place path = .ok place ∧ files.isDirectory place = false ∧
      stored = files.put place bytes := by
  rw [overwrite, bind_eq_ok]
  refine exists_congr fun place => and_congr_right fun _ => ?_
  cases files.isDirectory place with
  | true => exact iff_of_false nofun nofun
  | false =>
      constructor
      · intro hStored
        exact ⟨rfl, (Except.ok.inj hStored).symm⟩
      · rintro ⟨_, rfl⟩
        rfl

theorem write_eq_ok : files.write path bytes = (stored, .ok ()) ↔
    ∃ ready, files.makeAll path.root path.parts.dropLast.reverse = (ready, .ok ()) ∧
      ready.overwrite path bytes = .ok stored := by
  rw [write]
  rcases hMade : files.makeAll path.root path.parts.dropLast.reverse with ⟨ready, result⟩
  cases result with
  | error fault => simp
  | ok _ =>
      cases hStored : ready.overwrite path bytes with
      | error fault => simp [hStored]
      | ok done => simp [hStored]

/-- A file that was written is found. -/
theorem find_write (hWrite : files.write path bytes = (stored, .ok ())) :
    stored.find path = .ok (.file bytes) := by
  obtain ⟨ready, _, hStored⟩ := write_eq_ok.mp hWrite
  obtain ⟨place, hPlace, hPlain, rfl⟩ := overwrite_eq_ok.mp hStored
  obtain ⟨hZero, hLong, hFollow⟩ := place_eq_ok.mp hPlace
  have hAgain : (ready.put place bytes).place path = .ok place :=
    place_eq_ok.mpr ⟨hZero, hLong, follow_put hPlain hFollow⟩
  rw [find, hAgain]
  simp only [file_put]

/-- Whether a file can be written does not depend on what is written. -/
theorem write_other (hWrite : files.write path bytes = (stored, .ok ())) (other : List UInt8) :
    ∃ changed, files.write path other = (changed, .ok ()) := by
  obtain ⟨ready, hReady, hStored⟩ := write_eq_ok.mp hWrite
  obtain ⟨place, hPlace, hPlain, _⟩ := overwrite_eq_ok.mp hStored
  exact ⟨_, write_eq_ok.mpr ⟨ready, hReady, overwrite_eq_ok.mpr ⟨place, hPlace, hPlain, rfl⟩⟩⟩

/-- A file that was written can be written again. -/
theorem write_again (hWrite : files.write path bytes = (stored, .ok ())) (other : List UInt8) :
    ∃ changed, stored.write path other = (changed, .ok ()) := by
  obtain ⟨ready, hReady, hStored⟩ := write_eq_ok.mp hWrite
  obtain ⟨place, hPlace, hPlain, rfl⟩ := overwrite_eq_ok.mp hStored
  obtain ⟨hZero, hLong, hFollow⟩ := place_eq_ok.mp hPlace
  have hAgain : (ready.put place bytes).place path = .ok place :=
    place_eq_ok.mpr ⟨hZero, hLong, follow_put hPlain hFollow⟩
  refine ⟨_, write_eq_ok.mpr ⟨ready.put place bytes, ?_,
    overwrite_eq_ok.mpr ⟨place, hAgain, not_isDirectory_put hPlain, rfl⟩⟩⟩
  -- The directory above the file was made before, and putting the file there has left it.
  cases hParts : path.parts.dropLast.reverse with
  | nil => rfl
  | cons part above =>
      have hAbove : path.parts.dropLast = (part :: above).reverse := by
        rw [← hParts, List.reverse_reverse]
      have hSome : path.parts ≠ [] := by
        intro hNone
        rw [hNone] at hParts
        cases hParts
      rw [hParts] at hReady
      obtain ⟨before, known, hKnown⟩ := makeAll_place hReady
      obtain ⟨hAboveZero, hAboveLong, _⟩ := place_eq_ok.mp hKnown
      rw [← List.dropLast_concat_getLast hSome, hAbove] at hFollow
      obtain ⟨directory, hWay, hNoFile, hDirectory⟩ := follow_append hFollow
      have hElsewhere : directory ≠ place := by
        rintro rfl
        exact absurd (hDirectory.symm.trans hPlain) nofun
      have hFound : (ready.put place bytes).place ⟨path.root, (part :: above).reverse⟩ =
          .ok directory :=
        place_eq_ok.mpr ⟨hAboveZero, hAboveLong, follow_put hPlain hWay⟩
      apply makeAll_of_makeDirectory
      apply makeDirectory_of_isDirectory hFound
      · rw [file?_put_of_ne hElsewhere, hNoFile]
      · exact isDirectory_put hDirectory

end SdkFeed.Files
