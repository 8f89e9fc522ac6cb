import DocsConsole.Proofs.Files.Following

/-!
# Writing a file into a directory

Making directories adds nothing but directories, and what was there stays.  Then a
file is written at the place inside the directory that has the name of the file.  It
can be read back from its path, and no other file has changed.
-/

namespace DocsConsole

namespace FileSystem

variable {files : FileSystem} {directory : FilePath} {name : String}

/-! ## What changes -/

theorem find?_putEntry (location other : Location) (entry : Entry)
    (entries : List (Location × Entry)) :
    ((putEntry location entry entries).find? (·.1 = other)).map (·.2) =
      if other = location then some entry else (entries.find? (·.1 = other)).map (·.2) := by
  induction entries with
  | nil =>
      by_cases same : other = location
      · simp [putEntry, same]
      · simp [putEntry, same, Ne.symm same]
  | cons first entries induction =>
      obtain ⟨place, old⟩ := first
      by_cases replaced : place = location
      · by_cases same : other = location
        · simp [putEntry, replaced, same]
        · simp [putEntry, replaced, same, Ne.symm same]
      · by_cases found : place = other
        · have different : other ≠ location := fun same => replaced (found.trans same)
          simp [putEntry, found, different]
        · simp only [putEntry, if_neg replaced, List.find?_cons, found, decide_false]
          exact induction

theorem entry?_put (files : FileSystem) {location : Location} (inside : location ≠ [])
    (entry : Entry) (other : Location) :
    entry? (files.put location entry) other =
      if other = location then some entry else files.entry? other := by
  cases other with
  | nil => simp [ entry?, Ne.symm inside]
  | cons name names =>
      have found := find?_putEntry location (name :: names) entry files.entries
      simpa [ entry?, put] using found

/-- Nothing has changed but that some directories are new. -/
structure Prepares (after before : FileSystem) : Prop where
  working : after.working = before.working
  entries : ∀ location, after.entry? location = before.entry? location ∨
    (before.entry? location = none ∧ after.entry? location = some .directory)

namespace Prepares

theorem refl (files : FileSystem) : Prepares files files :=
  ⟨rfl, fun _ => Or.inl rfl⟩

theorem trans {first second third : FileSystem} (later : Prepares third second)
    (earlier : Prepares second first) : Prepares third first := by
  constructor
  · exact later.working.trans earlier.working
  · intro location
    rcases later.entries location with same | ⟨absent, made⟩
    · rw [same]
      exact earlier.entries location
    · rcases earlier.entries location with same | ⟨_, madeBefore⟩
      · rw [same] at absent
        exact Or.inr ⟨absent, made⟩
      · rw [madeBefore] at absent
        contradiction

theorem makeDirectory (files : FileSystem) (path : FilePath) :
    Prepares (files.makeDirectory path).2 files := by
  unfold FileSystem.makeDirectory
  cases reached : files.target path with
  | error failure => exact refl files
  | ok found =>
      obtain ⟨location, entry⟩ := found
      cases entry with
      | some entry => exact refl files
      | none =>
          have absent : files.entry? location = none := (target_eq_ok reached).2
          have inside : location ≠ [] := by
            rintro rfl
            simp [ entry?] at absent
          refine ⟨rfl, fun other => ?_⟩
          dsimp only
          rw [entry?_put files inside]
          split
          case isTrue same =>
            rw [same]
            exact Or.inr ⟨absent, rfl⟩
          case isFalse => exact Or.inl rfl

theorem makeEach (files : FileSystem) (paths : List FilePath) :
    Prepares (files.makeEach paths).2 files := by
  induction paths generalizing files with
  | nil => exact refl files
  | cons path paths induction =>
      have first := makeDirectory files path
      rw [FileSystem.makeEach]
      split
      case h_1 changed made =>
        rw [made] at first
        exact (induction changed).trans first
      case h_2 failure changed made =>
        rw [made] at first
        split
        · exact (induction changed).trans first
        · exact first

theorem makeInside (files : FileSystem) (passed paths : List FilePath) :
    Prepares (files.makeInside passed paths).2 files := by
  induction paths generalizing files passed with
  | nil => exact makeEach files passed
  | cons path outer induction =>
      have first := makeDirectory files path
      rw [FileSystem.makeInside]
      split
      case h_1 changed made =>
        rw [made] at first
        exact (makeEach changed passed).trans first
      case h_2 unchanged made =>
        rw [made] at first
        exact (induction unchanged (path :: passed)).trans first
      case h_3 failure unchanged _ made =>
        rw [made] at first
        split
        · exact (makeEach unchanged passed).trans first
        · exact first

theorem makeDirectories (files : FileSystem) (path : FilePath) :
    Prepares (files.makeDirectories path).2 files :=
  makeInside files [] _

end Prepares

/-! ## Writing and reading back -/

/-- A file of a name can be written into a directory: the directory is there or can be
made, no directory has the name of the file in it, and the path is not too long. -/
structure Writable (files : FileSystem) (directory : FilePath) (name : String) : Prop where
  made : (files.makeDirectories directory).1 = .ok ()
  free : ∃ place, (files.makeDirectories directory).2.Opens directory place ∧
    entry? (files.makeDirectories directory).2 (place ++ [name]) ≠ some .directory
  short : (FilePath.join directory name).utf8ByteSize ≤ longestPath

/-- A file was written at a place: it can be read from its path, and all that has changed
elsewhere is that some directories are new. -/
structure Wrote (after before : FileSystem) (path : FilePath) (location : Location)
    (content : ByteArray) : Prop where
  written : after.entry? location = some (.file content)
  read : after.read path = .ok content
  elsewhere : ∀ other, other ≠ location → after.entry? other = before.entry? other ∨
    (before.entry? other = none ∧ after.entry? other = some .directory)

theorem write_of_follow {path : FilePath} {location : Location} (content : ByteArray)
    (followed : files.follow path (parts path) = .ok location)
    (free : files.entry? location ≠ some .directory) (unslashed : endsInSlash path = false) :
    files.write path content = (.ok (), files.put location (.file content)) := by
  rw [write, target_of_follow followed]
  cases found : files.entry? location with
  | none => simp [unslashed]
  | some entry =>
      cases entry with
      | file old => simp [unslashed]
      | directory => exact (free found).elim

theorem read_of_follow {path : FilePath} {location : Location} {content : ByteArray}
    (followed : files.follow path (parts path) = .ok location)
    (found : files.entry? location = some (.file content))
    (unslashed : endsInSlash path = false) : files.read path = .ok content := by
  have located : files.locate path = .ok location :=
    locate_eq_ok_iff.mpr ⟨followed, by simp [unslashed]⟩
  simp [read, find, located, found]

/-- What is written without failing is written at a place without a directory. -/
theorem follow_of_write {path : FilePath} {content : ByteArray}
    (written : (files.write path content).1 = .ok ()) :
    ∃ location, files.follow path (parts path) = .ok location ∧
      files.entry? location ≠ some .directory ∧ endsInSlash path = false := by
  unfold write at written
  cases reached : files.target path with
  | error failure =>
      rw [reached] at written
      contradiction
  | ok found =>
      obtain ⟨location, entry⟩ := found
      obtain ⟨followed, isThere⟩ := target_eq_ok reached
      have free : entry ≠ some .directory := by
        rintro rfl
        simp [reached] at written
      have unslashed : endsInSlash path = false := by
        cases slashed : endsInSlash path with
        | false => rfl
        | true => cases entry <;> simp [reached, slashed] at written
      exact ⟨location, followed, isThere ▸ free, unslashed⟩

theorem follow_of_read {path : FilePath} {content : ByteArray}
    (read : files.read path = .ok content) :
    ∃ location, files.follow path (parts path) = .ok location ∧
      files.entry? location = some (.file content) ∧ endsInSlash path = false := by
  unfold FileSystem.read find at read
  cases located : files.locate path with
  | error failure => simp [located] at read
  | ok location =>
      obtain ⟨followed, slashed⟩ := locate_eq_ok_iff.mp located
      cases found : files.entry? location with
      | none => simp [located, found] at read
      | some entry =>
          cases entry with
          | directory => simp [located, found] at read
          | file old =>
              have same : old = content := by simpa [located, found] using read
              refine ⟨location, followed, by rw [found, same], ?_⟩
              cases ends : endsInSlash path with
              | false => rfl
              | true =>
                  have wrong := slashed ends
                  rw [found] at wrong
                  cases wrong

/-- What can be read before some directories are made can be read after it. -/
theorem Prepares.read {after before : FileSystem} (prepares : Prepares after before)
    {path : FilePath} {content : ByteArray} (read : before.read path = .ok content) :
    after.read path = .ok content := by
  have kept : ∀ {location entry}, before.entry? location = some entry →
      after.entry? location = some entry := by
    intro location entry found
    rcases prepares.entries location with same | ⟨absent, _⟩
    · exact same.trans found
    · rw [absent] at found
      contradiction
  obtain ⟨location, followed, found, unslashed⟩ := follow_of_read read
  exact read_of_follow (follow_of_directories (fun _ => kept) prepares.working followed)
    (kept found) unslashed

theorem writeInside_of_writable (plain : IsEntryName name)
    (writable : Writable files directory name) (content : ByteArray) :
    ∃ place after,
      files.writeInside directory name content = (.ok (FilePath.join directory name), after) ∧
        after.Opens directory place ∧
        Wrote after files (FilePath.join directory name) (place ++ [name]) content := by
  obtain ⟨made, ⟨place, opens, free⟩, short⟩ := writable
  have prepares := Prepares.makeDirectories files directory
  cases making : files.makeDirectories directory with
  | mk result prepared =>
      rw [making] at made opens free prepares
      have succeeds : result = .ok () := made
      subst succeeds
      have followed := opens.follow_join plain short
      have unslashed : endsInSlash (FilePath.join directory name) = false :=
        plain.endsInSlash_join
      have inside : place ++ [name] ≠ [] := by simp
      have kept : ∀ location, prepared.entry? location = some .directory →
          entry? (prepared.put (place ++ [name]) (.file content)) location =
            some .directory := by
        intro location found
        have other : location ≠ place ++ [name] := by
          rintro rfl
          exact free found
        rw [entry?_put prepared inside, if_neg other]
        exact found
      have written : entry? (prepared.put (place ++ [name]) (.file content))
          (place ++ [name]) = some (.file content) := by
        rw [entry?_put prepared inside, if_pos rfl]
      refine ⟨place, prepared.put (place ++ [name]) (.file content), ?_, ?_, ?_⟩
      · rw [writeInside, making]
        dsimp only
        rw [write_of_follow content followed free unslashed]
      · exact opens.of_directories kept rfl
      · constructor
        · exact written
        · exact read_of_follow (follow_of_directories kept rfl followed) written unslashed
        · intro other different
          rw [entry?_put prepared inside, if_neg different]
          exact prepares.entries other

/-- No weaker condition is enough for a file to be written. -/
theorem writable_iff (plain : IsEntryName name) (content : ByteArray) :
    Writable files directory name ↔
      ∃ path, (files.writeInside directory name content).1 = .ok path := by
  constructor
  · intro writable
    obtain ⟨place, after, written, _⟩ := writeInside_of_writable plain writable content
    rw [written]
    exact ⟨_, rfl⟩
  · rintro ⟨path, written⟩
    unfold writeInside at written
    cases making : files.makeDirectories directory with
    | mk result prepared =>
        rw [making] at written
        cases result with
        | error failure => contradiction
        | ok made =>
            dsimp only at written
            cases reached : prepared.target (FilePath.join directory name) with
            | error failure => simp [write, reached] at written
            | ok found =>
                obtain ⟨location, entry⟩ := found
                obtain ⟨followed, isThere⟩ := target_eq_ok reached
                obtain ⟨place, there, opens⟩ := opens_of_follow_join plain followed
                constructor
                · rw [making]
                · rw [making]
                  refine ⟨place, opens, ?_⟩
                  rw [← there, isThere]
                  rintro rfl
                  simp [write, reached] at written
                · exact (follow_eq_ok_iff.mp followed).2.2.1

/-! ## A directory that is there -/

theorem ancestors_eq_cons (path : FilePath) :
    ∃ outer, FilePath.ancestors path = path :: outer := by
  unfold FilePath.ancestors
  cases path.length with
  | zero => exact ⟨[], rfl⟩
  | succ fuel =>
      rw [FilePath.ancestorsFrom]
      split
      · exact ⟨_, rfl⟩
      · exact ⟨[], rfl⟩

/-- A directory that is there is not made again. -/
theorem Opens.makeDirectories {place : Location} (opens : files.Opens directory place) :
    files.makeDirectories directory = (.ok (), files) := by
  cases present : directory.isEmpty with
  | true =>
      obtain ⟨outer, ancestors⟩ := ancestors_eq_cons directory
      rw [FileSystem.makeDirectories, ancestors]
      simp [present, makeInside, makeEach]
  | false =>
      have located := opens.located
      rw [present] at located
      have leads : files.locate directory = .ok place := located
      have isThere : files.isDirectory directory = true := by
        simp [FileSystem.isDirectory, find, leads, opens.isDirectory]
      have unmade : files.makeDirectory directory = (.error .alreadyExists, files) := by
        rw [makeDirectory, target_of_follow (opens.follow_eq present), opens.isDirectory]
      obtain ⟨outer, ancestors⟩ := ancestors_eq_cons directory
      rw [FileSystem.makeDirectories, ancestors, List.takeWhile_cons]
      split
      · rw [makeInside, unmade]
        simp [isThere, makeEach]
      · rfl

/-- A file can be written into a directory that is there, unless a directory has its name. -/
theorem Opens.writable {place : Location} (opens : files.Opens directory place)
    (free : files.entry? (place ++ [name]) ≠ some .directory)
    (short : (FilePath.join directory name).utf8ByteSize ≤ longestPath) :
    Writable files directory name := by
  have made := opens.makeDirectories
  constructor
  · rw [made]
  · rw [made]
    exact ⟨place, opens, free⟩
  · exact short

end FileSystem

end DocsConsole
