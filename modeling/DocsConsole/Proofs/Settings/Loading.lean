import DocsConsole.Proofs.Settings.Keys
import DocsConsole.Proofs.Settings.Store

/-!
# What loading settings does to the files

Loading writes the standard settings if nothing is found at the path, and it makes the
directories that the path goes through first.  Once they are there the path may lead to a file
that was there all the time, by way of `..` out of a new directory, and that file is replaced.
In any other case every file keeps its content.
-/

namespace DocsConsole

namespace FileSystem

variable {before after : FileSystem} {start location : Location}

/-- Whatever is there lies in directories. -/
def Orderly (files : FileSystem) : Prop :=
  ∀ location name, files.entry? (location ++ [name]) ≠ none →
    files.entry? location = some .directory

theorem Orderly.directory_of_append (orderly : before.Orderly) (name : String)
    (names : List String) (found : before.entry? (location ++ name :: names) ≠ none) :
    before.entry? location = some .directory := by
  induction names generalizing location name with
  | nil => exact orderly location name found
  | cons next names induction =>
      have inner : before.entry? (location ++ [name]) = some .directory :=
        induction next (by simpa using found)
      exact orderly location name (by simp [inner])

/-- Without `..` a walk goes inwards. -/
theorem prefix_of_walk {parts : List String} (inward : ".." ∉ parts)
    (walked : before.walk start parts = .ok location) : start <+: location := by
  induction parts generalizing start with
  | nil =>
      cases walked
      exact List.prefix_refl _
  | cons part parts induction =>
      obtain ⟨notOuter, inward⟩ := not_or.mp (mt List.mem_cons.mpr inward)
      rw [walk_cons_of_directory (directory_of_walk_cons walked)] at walked
      unfold entered at walked
      split at walked
      · exact induction inward walked
      · rw [if_neg (Ne.symm notOuter)] at walked
        split at walked
        · contradiction
        · exact (List.prefix_append _ _).trans (induction inward walked)

/-- What was there before some directories were made was found in the same way, unless the way
goes through `..`. -/
theorem Prepares.walk (prepares : Prepares after before) (orderly : before.Orderly)
    {parts : List String} (inward : ".." ∉ parts) (walked : after.walk start parts = .ok location)
    (found : before.entry? location ≠ none) : before.walk start parts = .ok location := by
  induction parts generalizing start with
  | nil => exact walked
  | cons part parts induction =>
      have now := directory_of_walk_cons walked
      have earlier : before.entry? start = some .directory := by
        obtain ⟨names, rfl⟩ := prefix_of_walk inward walked
        cases names with
        | nil =>
            rw [List.append_nil] at found
            rcases prepares.entries start with same | ⟨absent, _⟩
            · exact same ▸ now
            · contradiction
        | cons name names => exact orderly.directory_of_append name names found
      rw [walk_cons_of_directory now] at walked
      rw [walk_cons_of_directory earlier]
      cases leads : entered start part with
      | error failure =>
          rw [leads] at walked
          contradiction
      | ok next =>
          rw [leads] at walked
          exact induction (List.not_mem_of_not_mem_cons inward) walked

/-- What is found keeps being found when directories are made. -/
theorem Prepares.kept {entry : Entry} (prepares : Prepares after before)
    (found : before.entry? location = some entry) : after.entry? location = some entry := by
  rcases prepares.entries location with same | ⟨absent, _⟩
  · exact same.trans found
  · rw [absent] at found
    contradiction

/-- A write that fails changes nothing. -/
theorem write_of_error {files final : FileSystem} {path : FilePath} {content : ByteArray}
    {failure : FileError} (wrote : files.write path content = (.error failure, final)) :
    final = files := by
  unfold write at wrote
  split at wrote
  · exact (congrArg Prod.snd wrote).symm
  · exact (congrArg Prod.snd wrote).symm
  · split at wrote
    · exact (congrArg Prod.snd wrote).symm
    · cases wrote

end FileSystem

namespace Settings

open FileSystem

variable {files : FileSystem} {path : FilePath} {location : Location} {settings : Settings}

/-! ## The standard settings as a text -/

/-- What is written where there is no file. -/
def standardText : String :=
  "[backend]\nbase_url = \x22http://localhost:8000/api\x22\n\n" ++
    "[ui]\ntick_ms = 100\ntoast_seconds = 3\n\n[output]\n"

theorem write?_standard : standard.write? = some standardText := by
  decide +kernel

theorem standardText_written : Written standardText standard.statements := by
  obtain ⟨text, written, lines⟩ := write?_of_fit standard_fit
  rw [write?_standard, Option.some_inj] at written
  rwa [written]

/-! ## Where loading writes -/

/-- Loading writes to a location: nothing is found at the path, a file can be written there, and
the path leads to the location once the directory of the file is there. -/
structure WritesAt (files : FileSystem) (path : FilePath) (location : Location) : Prop where
  missing : files.pathExists path = false
  takes : Takes files path
  leads : (makeParent files path).2.follow path (parts path) = .ok location

theorem WritesAt.unique {other : Location} (writes : WritesAt files path location)
    (writesToo : WritesAt files path other) : location = other :=
  Except.ok.inj (writes.leads.symm.trans writesToo.leads)

theorem exists_writesAt (missing : files.pathExists path = false) (takes : Takes files path) :
    ∃ location, WritesAt files path location := by
  obtain ⟨location, leads, _⟩ := takes.free
  exact ⟨location, missing, takes, leads⟩

/-- Loading does not write where something is, if the path has no part `..`. -/
theorem WritesAt.absent (writes : WritesAt files path location) (orderly : files.Orderly)
    (inward : ".." ∉ parts path) : files.entry? location = none := by
  refine Option.not_isSome_iff_eq_none.mp fun isSome => ?_
  obtain ⟨entry, isThere⟩ := Option.isSome_iff_exists.mp isSome
  have found : files.entry? location ≠ none := by simp [isThere]
  have prepares := prepares_makeParent files path
  obtain ⟨clean, present, short, walked⟩ := follow_eq_ok_iff.mp writes.leads
  rw [base, prepares.working] at walked
  have followed : files.follow path (parts path) = .ok location :=
    follow_eq_ok_iff.mpr ⟨clean, present, short, prepares.walk orderly inward walked found⟩
  have located : files.locate path = .ok location :=
    locate_eq_ok_iff.mpr ⟨followed, by simp [writes.takes.unslashed]⟩
  have missing := writes.missing
  simp [pathExists, find, located, isThere] at missing

theorem WritesAt.free (writes : WritesAt files path location) :
    FileSystem.entry? (makeParent files path).2 location ≠ some .directory := by
  obtain ⟨place, leads, free⟩ := writes.takes.free
  have same : place = location := Except.ok.inj (leads.symm.trans writes.leads)
  exact same ▸ free

theorem WritesAt.inside (writes : WritesAt files path location) : location ≠ [] := by
  rintro rfl
  exact writes.free rfl

theorem WritesAt.load_eq (writes : WritesAt files path location) :
    load files path =
      (.ok standard, (makeParent files path).2.put location (.file standardText.toUTF8)) := by
  rw [Settings.load, if_neg (by simp [writes.missing]), save_of_takes writes.takes, write?_standard]
  dsimp only
  rw [write_of_follow _ writes.leads writes.free writes.takes.unslashed]

theorem load_of_exists (isThere : files.pathExists path = true) : (load files path).2 = files := by
  rw [load, if_pos isThere]
  split
  · rfl
  · split <;> rfl

/-- Loading fails where nothing is found and no file can be written. -/
theorem load_of_untaken (missing : files.pathExists path = false) (untaken : ¬Takes files path) :
    ∃ failure, load files path = (.error (.storage failure), (makeParent files path).2) := by
  rw [takes_iff] at untaken
  rw [load, if_neg (by simp [missing])]
  unfold save at untaken ⊢
  cases making : makeParent files path with
  | mk result changed =>
      rw [making] at untaken
      cases result with
      | error failure => exact ⟨failure, rfl⟩
      | ok made =>
          rw [write?_standard] at untaken ⊢
          dsimp only at untaken ⊢
          cases writing : changed.write path standardText.toUTF8 with
          | mk result final =>
              rw [writing] at untaken
              cases result with
              | error failure =>
                  rw [write_of_error writing]
                  exact ⟨failure, rfl⟩
              | ok done => exact absurd rfl untaken

/-! ## What is kept -/

inductive Loads (files : FileSystem) (path : FilePath) : Prop where
  /-- Something is found at the path, and nothing is written. -/
  | reads (isThere : files.pathExists path = true)
  | creates (location : Location) (writes : WritesAt files path location)
  /-- Directories may be made, but the file is not. -/
  | fails (failure : FileError) (untaken : ¬Takes files path)
      (loaded : load files path = (.error (.storage failure), (makeParent files path).2))

theorem loads (files : FileSystem) (path : FilePath) : Loads files path := by
  cases missing : files.pathExists path with
  | true => exact .reads missing
  | false =>
      by_cases takes : Takes files path
      · obtain ⟨location, writes⟩ := exists_writesAt missing takes
        exact .creates location writes
      · obtain ⟨failure, loaded⟩ := load_of_untaken missing takes
        exact .fails failure takes loaded

/-- What is found at a location stays there, unless loading writes something else to it. -/
theorem entry?_load_iff {entry : Entry} (found : files.entry? location = some entry) :
    FileSystem.entry? (load files path).2 location = some entry ↔
      ¬(WritesAt files path location ∧ entry ≠ .file standardText.toUTF8) := by
  have kept : FileSystem.entry? (makeParent files path).2 location = some entry :=
    (prepares_makeParent files path).kept found
  cases loads files path with
  | reads isThere =>
      have unwritten : ¬WritesAt files path location := fun writes =>
        Bool.noConfusion (isThere.symm.trans writes.missing)
      rw [load_of_exists isThere]
      simp [found, unwritten]
  | creates place writes =>
      rw [writes.load_eq, entry?_put _ writes.inside]
      by_cases here : location = place
      · subst here
        simp [writes, eq_comm]
      · have unwritten : ¬WritesAt files path location := fun other =>
          here (other.unique writes)
        simp [here, kept, unwritten]
  | fails failure untaken loaded =>
      have unwritten : ¬WritesAt files path location := fun writes => untaken writes.takes
      rw [loaded]
      simp [kept, unwritten]

/-- What loading writes is read back from the path. -/
theorem WritesAt.read_load (writes : WritesAt files path location) :
    (load files path).2.read path = .ok standardText.toUTF8 := by
  obtain ⟨after, wrote, read⟩ := write_of_takes writes.takes standardText.toUTF8
  rw [write_of_follow _ writes.leads writes.free writes.takes.unslashed] at wrote
  rw [writes.load_eq, (Prod.mk.inj wrote).2]
  exact read

theorem load_again (loaded : (load files path).1 = .ok settings) :
    load (load files path).2 path = (.ok settings, (load files path).2) := by
  cases loads files path with
  | reads isThere =>
      rw [load_of_exists isThere]
      exact Prod.ext loaded (load_of_exists isThere)
  | creates location writes =>
      have same : settings = standard := by
        rw [writes.load_eq] at loaded
        exact (Except.ok.inj loaded).symm
      rw [load_of_read writes.read_load, read?_of_written standardText_written, same]
  | fails failure _ fails =>
      rw [fails] at loaded
      contradiction

/-- What is loaded from a text is what can be read from it. -/
theorem load_of_readText {text : String} (read : files.readText path = .ok text) :
    (load files path).1 = .ok settings ↔ read? text = some settings := by
  have isThere : files.pathExists path = true := by
    unfold FileSystem.readText at read
    cases reads : files.read path with
    | ok content => exact pathExists_of_read reads
    | error failure =>
        rw [reads] at read
        contradiction
  rw [load, if_pos isThere, read]
  dsimp only
  cases read? text <;> simp

/-- Nothing changes if something is found at the path.  If nothing is found, whatever is there
stays all the same, unless the path leads to it once the directory of the file is made: then it
is replaced by the standard settings.  That only happens on a path with `..`.  What was loaded
is loaded again without a change.  A file that is made holds the standard settings and nothing
else.  A file with a text can be loaded if and only if it is well formed; then every key has the
value that the file gives it, and the standard one if it gives none. -/
theorem load_reads_or_creates (files : FileSystem) (path : FilePath) :
    ((files.pathExists path = true → (load files path).2 = files) ∧
      (∀ location entry, files.entry? location = some entry →
        ( FileSystem.entry? (load files path).2 location = some entry ↔
          ¬(WritesAt files path location ∧ entry ≠ .file standardText.toUTF8))) ∧
      (files.Orderly → ".." ∉ parts path →
        ∀ location, WritesAt files path location → files.entry? location = none)) ∧
    (∀ settings, (load files path).1 = .ok settings →
      load (load files path).2 path = (.ok settings, (load files path).2)) ∧
    (files.pathExists path = false → Takes files path →
      (load files path).1 = .ok standard ∧
        (load files path).2.read path = .ok standardText.toUTF8 ∧
        Toml.read? standardText = some standard.entries ∧ read? standardText = some standard) ∧
    ∀ text, files.readText path = .ok text →
      ((∃ settings, (load files path).1 = .ok settings) ↔
        ∃ entries, Toml.read? text = some entries ∧ WellFormed entries) ∧
      ∀ settings entries, (load files path).1 = .ok settings → Toml.read? text = some entries →
        ∀ key, settings.value? key = (key.given? entries).or (standard.value? key) := by
  refine ⟨⟨load_of_exists, fun location entry => entry?_load_iff, ?_⟩, fun settings => load_again,
    ?_, ?_⟩
  · exact fun orderly inward location writes => writes.absent orderly inward
  · intro missing takes
    obtain ⟨location, writes⟩ := exists_writesAt missing takes
    exact ⟨by rw [writes.load_eq], writes.read_load, document_of_written standardText_written,
      read?_of_written standardText_written⟩
  · intro text read
    simp only [load_of_readText read]
    constructor
    · exact exists_read?_iff
    · intro settings entries loaded document key
      obtain ⟨found, same, _, values⟩ := read?_eq_some_iff.mp loaded
      rw [document, Option.some_inj] at same
      exact same ▸ values key

/-- A working directory with a file that sets one key. -/
def oneKeySet : FileSystem :=
  ⟨[(["home"], .directory), (["home", "c.toml"], .file "[ui]\ntick_ms = 7\n".toUTF8)], ["home"]⟩

/-- The key that is set is loaded from the file, another one has its standard value; where there
is no file, one is made. -/
theorem load_oneKeySet :
    (∃ settings, load oneKeySet "c.toml" = (.ok settings, oneKeySet) ∧
      settings.value? .tickMillis = some (.integer 7) ∧
      settings.value? .toastSeconds = some (.integer 3)) ∧
    (load oneKeySet "x/c.toml").1 = .ok standard ∧
    (load oneKeySet "x/c.toml").2.read "x/c.toml" = .ok standardText.toUTF8 := by
  have content : oneKeySet.read "c.toml" = .ok "[ui]\ntick_ms = 7\n".toUTF8 := rfl
  have read : oneKeySet.readText "c.toml" = .ok "[ui]\ntick_ms = 7\n" := by
    simp only [readText, content, Utf8.text?_toUTF8]
  have lines : "[ui]\ntick_ms = 7\n".toList = [Toml.Line.header { text := "ui" },
      .number { text := "tick_ms" } 7 (by decide)].flatMap Toml.Line.chars := by decide
  have document : Toml.read? "[ui]\ntick_ms = 7\n" =
      some [("ui", .table .header [("tick_ms", .integer 7)])] := by
    rw [Toml.read?_lines _ lines]
    rfl
  have given (key : Key) : key.given? [("ui", .table .header [("tick_ms", .integer 7)])] =
      if key = .tickMillis then some (.integer 7) else none := by
    cases key <;> simp [Key.given?, Key.table, Key.name, Toml.lookup, Toml.Value.field?]
  have wellFormed : WellFormed [("ui", .table .header [("tick_ms", .integer 7)])] := by
    constructor
    · intro key
      cases key <;> simp [Key.table, Toml.lookup, Toml.Value.isRecord]
    · intro key value present
      obtain ⟨rfl, rfl⟩ : key = .tickMillis ∧ .integer 7 = value := by simpa [given] using present
      exact ⟨7, rfl⟩
  obtain ⟨⟨kept, _⟩, _, _, reads⟩ := load_reads_or_creates oneKeySet "c.toml"
  obtain ⟨loads, values⟩ := reads _ read
  obtain ⟨settings, loaded⟩ := loads.mpr ⟨_, document, wellFormed⟩
  have valued := values settings _ loaded document
  have unchanged : (load oneKeySet "c.toml").2 = oneKeySet := kept (pathExists_of_read content)
  obtain ⟨_, _, created, _⟩ := load_reads_or_creates oneKeySet "x/c.toml"
  have takes : Takes oneKeySet "x/c.toml" :=
    ⟨rfl, ⟨["home", "x", "c.toml"], rfl, by decide⟩, by decide⟩
  obtain ⟨fresh, made, _⟩ := created (by decide) takes
  refine ⟨⟨settings, Prod.ext loaded unchanged, ?_, ?_⟩, fresh, made⟩
  · rw [valued, given]
    rfl
  · rw [valued, given]
    rfl

/-- The path goes through a directory that is not there yet, and out of it again to a file that
is.  Loading makes the directory and replaces the file. -/
theorem load_replaces_file :
    let loaded := load oneKeySet "x/../c.toml"
    oneKeySet.read "c.toml" = .ok "[ui]\ntick_ms = 7\n".toUTF8 ∧
      loaded.1 = .ok standard ∧ loaded.2.read "c.toml" = .ok standardText.toUTF8 ∧
      standardText.toUTF8 ≠ "[ui]\ntick_ms = 7\n".toUTF8 := by
  have writes : WritesAt oneKeySet "x/../c.toml" ["home", "c.toml"] :=
    ⟨by decide, ⟨rfl, ⟨["home", "c.toml"], rfl, by decide⟩, by decide⟩, rfl⟩
  refine ⟨rfl, by rw [writes.load_eq], ?_, by decide⟩
  rw [writes.load_eq]
  rfl

end Settings

end DocsConsole
