import DocsConsole.Proofs.Files.Saving
import DocsConsole.Proofs.Settings.Format
import DocsConsole.Proofs.Text.Utf8
import DocsConsole.Settings.Store

/-!
# Loading saved settings

At every path at which a file can be written, settings that fit are saved, and loading gives
them back.  Settings with a number that is too large are refused.  By then the directory that
the file lies in may have been made, but a file that is there keeps its content.
-/

namespace DocsConsole.Settings

open FileSystem
open scoped CoreInstances

variable {settings : Settings} {files : FileSystem} {path : FilePath}

/-- A file can be written at a path: the directory that it lies in is there or can be made,
the path leads into it, and neither is a directory there nor does the path ask for one. -/
structure Takes (files : FileSystem) (path : FilePath) : Prop where
  made : (makeParent files path).1 = .ok ()
  free : ∃ location, (makeParent files path).2.follow path (parts path) = .ok location ∧
    entry? (makeParent files path).2 location ≠ some .directory
  unslashed : endsInSlash path = false

theorem prepares_makeParent (files : FileSystem) (path : FilePath) :
    Prepares (makeParent files path).2 files := by
  unfold makeParent
  cases FilePath.parent? path with
  | none => exact Prepares.refl files
  | some directory => exact Prepares.makeDirectories files directory

/-- Saving begins with the directory of the file. -/
theorem save_of_takes (takes : Takes files path) :
    settings.save files path =
      match settings.write? with
      | none => (.error .unwritable, (makeParent files path).2)
      | some text =>
          match (makeParent files path).2.write path text.toUTF8 with
          | (.error failure, final) => (.error (.storage failure), final)
          | (.ok (), final) => (.ok (), final) := by
  have made := takes.made
  unfold save
  cases making : makeParent files path with
  | mk result changed =>
      rw [making] at made
      have succeeds : result = .ok () := made
      subst succeeds
      rfl

/-- A file is written at a path that takes one, and is read back from there. -/
theorem write_of_takes (takes : Takes files path) (content : ByteArray) :
    ∃ after, (makeParent files path).2.write path content = (.ok (), after) ∧
      after.read path = .ok content := by
  obtain ⟨location, followed, free⟩ := takes.free
  have inside : location ≠ [] := by
    rintro rfl
    exact free rfl
  refine ⟨_, write_of_follow content followed free takes.unslashed, ?_⟩
  have kept : ∀ other, entry? (makeParent files path).2 other = some .directory →
      entry? ((makeParent files path).2.put location (.file content)) other =
        some .directory := by
    intro other found
    have different : other ≠ location := by
      rintro rfl
      exact free found
    rw [entry?_put _ inside, if_neg different]
    exact found
  have written : entry? ((makeParent files path).2.put location (.file content)) location =
      some (.file content) := by
    rw [entry?_put _ inside, if_pos rfl]
  exact read_of_follow (follow_of_directories kept rfl followed) written takes.unslashed

/-- What is read from a path is there. -/
theorem pathExists_of_read {content : ByteArray} (read : files.read path = .ok content) :
    files.pathExists path = true := by
  unfold FileSystem.read at read
  unfold pathExists
  cases found : files.find path with
  | ok entry => rfl
  | error failure =>
      rw [found] at read
      contradiction

theorem load_of_read {text : String} (read : files.read path = .ok text.toUTF8) :
    load files path =
      match read? text with
      | some settings => (.ok settings, files)
      | none => (.error .malformed, files) := by
  have isThere := pathExists_of_read read
  cases parsed : read? text <;>
    simp only [load, if_pos isThere, readText, read, Utf8.text?_toUTF8, parsed]

theorem save_of_fit (fit : settings.Fit) (takes : Takes files path) :
    ∃ after, settings.save files path = (.ok (), after) ∧
      load after path = (.ok settings, after) := by
  obtain ⟨text, written, reread⟩ := read?_write? fit
  obtain ⟨after, wrote, read⟩ := write_of_takes takes text.toUTF8
  refine ⟨after, ?_, ?_⟩
  · rw [save_of_takes takes, written]
    dsimp only
    rw [wrote]
  · rw [load_of_read read, reread]

theorem standard_fit : standard.Fit :=
  ⟨by simp [standard], by decide, by decide⟩

/-- A path takes a file if and only if the standard settings can be saved there. -/
theorem takes_iff : Takes files path ↔ (standard.save files path).1 = .ok () := by
  constructor
  · intro takes
    obtain ⟨after, saved, _⟩ := save_of_fit standard_fit takes
    rw [saved]
  · intro saved
    obtain ⟨text, written, _⟩ := read?_write? standard_fit
    unfold save at saved
    cases making : makeParent files path with
    | mk result changed =>
        rw [making] at saved
        cases result with
        | error failure => contradiction
        | ok made =>
            rw [written] at saved
            dsimp only at saved
            have wrote : (changed.write path text.toUTF8).1 = .ok () := by
              cases writing : changed.write path text.toUTF8 with
              | mk result final =>
                  rw [writing] at saved
                  cases result with
                  | error failure => contradiction
                  | ok done => rfl
            obtain ⟨location, followed, free, unslashed⟩ := follow_of_write wrote
            exact ⟨by rw [making], ⟨location, by rw [making]; exact followed,
              by rw [making]; exact free⟩, unslashed⟩

/-- Settings are saved and loaded unchanged, or refused with the file unchanged. -/
theorem save_then_load (settings : Settings) (takes : Takes files path) :
    (settings.Fit → ∃ after, settings.save files path = (.ok (), after) ∧
      load after path = (.ok settings, after)) ∧
    (¬ settings.Fit → ∃ after, settings.save files path = (.error .unwritable, after) ∧
      SettingsError.unwritable.message = "Configuration error: Failed to serialize config" ∧
      Prepares after files ∧
      ∀ content, files.read path = .ok content → after.read path = .ok content) := by
  constructor
  · exact fun fit => save_of_fit fit takes
  · intro large
    have prepares := prepares_makeParent files path
    refine ⟨(makeParent files path).2, ?_, rfl, prepares, ?_⟩
    · rw [save_of_takes takes, write?_eq_none large]
    · exact fun content read => prepares.read read

/-- Settings that need escapes, on several lines, and one number of the greatest size. -/
def crowded : Settings :=
  { standard with
    baseUrl := "http://\x22a\\b\x27\x27\x27\n\x01/api"
    timeoutSeconds := some (2 ^ (63 : Nat) - 1)
    downloadDirectory := some "C:\\new" }

/-- A working directory with a file in it. -/
def shelf : FileSystem :=
  ⟨[(["home"], .directory), (["home", "config.toml"], .file "[ui]\n".toUTF8)], ["home"]⟩

theorem save_then_load_crowded :
    Takes shelf "settings/config.toml" ∧ crowded.Fit ∧
    (∃ after, crowded.save shelf "settings/config.toml" = (.ok (), after) ∧
      load after "settings/config.toml" = (.ok crowded, after)) ∧
    Takes shelf "config.toml" ∧ ¬ { crowded with tickMillis := 2 ^ (63 : Nat) }.Fit ∧
    ∃ after, { crowded with tickMillis := 2 ^ (63 : Nat) }.save shelf "config.toml" =
      (.error .unwritable, after) ∧ after.read "config.toml" = .ok "[ui]\n".toUTF8 := by
  have inside : Takes shelf "settings/config.toml" :=
    ⟨rfl, ⟨["home", "settings", "config.toml"], rfl, by decide⟩, by decide⟩
  have here : Takes shelf "config.toml" :=
    ⟨rfl, ⟨["home", "config.toml"], rfl, by decide⟩, by decide⟩
  have fit : crowded.Fit := ⟨by simp [crowded], by decide, by decide⟩
  have large : ¬ { crowded with tickMillis := 2 ^ (63 : Nat) }.Fit := fun fit =>
    absurd fit.tickMillis (Nat.lt_irrefl _)
  obtain ⟨after, refused, _, _, kept⟩ := (save_then_load _ here).2 large
  exact ⟨inside, fit, (save_then_load crowded inside).1 fit, here, large, after, refused,
    kept _ rfl⟩

end DocsConsole.Settings
