import DocsConsole.Files.Download

/-!
# Following the path of a file into a directory

A path is followed part by part, through directories only.  The path of a file inside a
directory has the parts of the directory and then the name of the file, so it leads to
the place with that name inside the place that the directory's own path leads to.
-/

namespace DocsConsole

namespace FileSystem

/-- A name that stands for itself in a path: an entry inside a directory can have it. -/
structure IsEntryName (name : String) : Prop where
  nonempty : name.toList ≠ []
  undivided : '/' ∉ name.toList
  clean : '\x00' ∉ name.toList
  notHere : name ≠ "."
  notOuter : name ≠ ".."
  short : name.utf8ByteSize ≤ longestName

theorem fileName_isEntryName (purpose : Purpose) : IsEntryName purpose.fileName := by
  cases purpose with
  | readme => constructor <;> decide
  | inlineComments => constructor <;> decide

/-! ## The path of a file inside a directory -/

variable {files : FileSystem} {directory : FilePath} {name : String}

theorem parts_of_append_slash {path : FilePath} {front rest : List Char}
    (divided : path.toList = front ++ '/' :: rest) :
    parts path = parts (String.ofList front) ++ parts (String.ofList rest) := by
  simp [parts, PathShape.between, divided, Unicode.pieces_append_separator]

theorem parts_empty : parts (String.ofList []) = [] := by
  simp [parts, PathShape.between, Unicode.pieces]

theorem join_of_isEmpty (empty : directory.isEmpty = true) :
    FilePath.join directory name = name := by
  simp [FilePath.join, empty]

namespace IsEntryName

variable (plain : IsEntryName name)

include plain

theorem parts_eq : parts name = [name] := by
  have whole : Unicode.pieces (· = '/') name.toList = [name.toList] := by
    apply Unicode.pieces_of_undivided
    intro c member
    have other : c ≠ '/' := by
      rintro rfl
      exact plain.undivided member
    simpa using other
  simp [parts, PathShape.between, whole, plain.nonempty]

theorem isAbsolute_eq : FilePath.isAbsolute name = false := by
  have other : name.toList.head? ≠ some '/' := by
    intro begins
    exact plain.undivided (List.mem_of_mem_head? begins)
  simpa [FilePath.isAbsolute] using other

/-- The path of a file is that of the directory, a slash and the name, unless it is the
name alone.  A slash at the end of the directory is not written twice. -/
theorem join_toList (present : directory.isEmpty = false) :
    ∃ front, (FilePath.join directory name).toList = front ++ '/' :: name.toList ∧
      (directory.toList = front ∨ directory.toList = front ++ ['/']) := by
  rw [FilePath.join, plain.isAbsolute_eq, present]
  by_cases ends : directory.toList.getLast? = some '/'
  · obtain ⟨front, divided⟩ := List.getLast?_eq_some_iff.mp ends
    refine ⟨front, ?_, Or.inr divided⟩
    simp [divided]
  · refine ⟨directory.toList, ?_, Or.inl rfl⟩
    simp [ends]

theorem parts_join : parts (FilePath.join directory name) = parts directory ++ [name] := by
  cases present : directory.isEmpty with
  | true =>
      rw [join_of_isEmpty present, plain.parts_eq, String.isEmpty_iff.mp present]
      rfl
  | false =>
      obtain ⟨front, divided, front_ | slashed⟩ := plain.join_toList present
      · rw [parts_of_append_slash divided, String.ofList_toList, plain.parts_eq, ← front_,
          String.ofList_toList]
      · have front_ : parts directory = parts (String.ofList front) := by
          rw [parts_of_append_slash slashed, parts_empty, List.append_nil]
        rw [parts_of_append_slash divided, String.ofList_toList, plain.parts_eq, front_]

theorem isAbsolute_join :
    FilePath.isAbsolute (FilePath.join directory name) = FilePath.isAbsolute directory := by
  cases present : directory.isEmpty with
  | true =>
      rw [join_of_isEmpty present, plain.isAbsolute_eq, String.isEmpty_iff.mp present]
      rfl
  | false =>
      obtain ⟨front, divided, same⟩ := plain.join_toList present
      rw [FilePath.isAbsolute, FilePath.isAbsolute, divided]
      cases front with
      | nil =>
          rcases same with bare | slashed
          · have empty : directory = "" := by simpa using bare
            simp [empty] at present
          · simp [slashed]
      | cons c front =>
          rcases same with bare | slashed
          · simp [bare]
          · simp [slashed]

theorem endsInSlash_join : endsInSlash (FilePath.join directory name) = false := by
  have lastOfName : name.toList.getLast? ≠ some '/' := by
    intro ends
    exact plain.undivided (List.mem_of_getLast? ends)
  cases present : directory.isEmpty with
  | true =>
      rw [join_of_isEmpty present]
      simpa [endsInSlash] using lastOfName
  | false =>
      obtain ⟨front, divided, _⟩ := plain.join_toList present
      have nonempty := plain.nonempty
      cases characters : name.toList with
      | nil => contradiction
      | cons c rest =>
          rw [characters] at lastOfName divided
          simpa [endsInSlash, divided, List.getLast?_append, List.getLast?_cons_cons] using
            lastOfName

theorem join_eq_append :
    ∃ slash ∈ ["", "/"], FilePath.join directory name = directory ++ slash ++ name := by
  rw [FilePath.join, plain.isAbsolute_eq]
  cases present : directory.isEmpty with
  | true =>
      refine ⟨"", by simp, ?_⟩
      simp [String.isEmpty_iff.mp present]
  | false =>
      by_cases slashed : directory.toList.getLast? = some '/'
      · exact ⟨"", by simp, by simp [slashed]⟩
      · exact ⟨"/", by simp, by simp [slashed]⟩

theorem clean_join (clean : '\x00' ∉ directory.toList) :
    '\x00' ∉ (FilePath.join directory name).toList := by
  obtain ⟨slash, known, joined⟩ : ∃ slash ∈ ["", "/"],
      FilePath.join directory name = directory ++ slash ++ name := plain.join_eq_append
  have cleanSlash : '\x00' ∉ slash.toList := by
    simp only [List.mem_cons, List.not_mem_nil, or_false] at known
    rcases known with rfl | rfl <;> decide
  simp [joined, clean, cleanSlash, plain.clean]

end IsEntryName

/-! ## Following a path -/

/-- Where a part leads to from a directory. -/
def entered (location : Location) (part : String) : Except FileError Location :=
  if part = "." then .ok location
  else if part = ".." then .ok location.dropLast
  else if part.utf8ByteSize > longestName then .error .nameTooLong
  else .ok (location ++ [part])

theorem walk_cons_of_directory {location : Location}
    (found : files.entry? location = some .directory) (part : String) (rest : List String) :
    files.walk location (part :: rest) =
      (entered location part).bind fun reached => files.walk reached rest := by
  rw [walk, found]
  dsimp only
  unfold entered
  split
  · rfl
  · split
    · rfl
    · split <;> rfl

/-- Only directories are walked through. -/
theorem directory_of_walk_cons {location reached : Location} {part : String}
    {rest : List String} (walked : files.walk location (part :: rest) = .ok reached) :
    files.entry? location = some .directory := by
  rw [walk] at walked
  split at walked
  · contradiction
  · contradiction
  case h_3 found => exact found

theorem walk_append (files : FileSystem) (location : Location) (first second : List String) :
    files.walk location (first ++ second) =
      (files.walk location first).bind fun reached => files.walk reached second := by
  induction first generalizing location with
  | nil => rfl
  | cons part first induction =>
      cases found : files.entry? location with
      | none => simp [walk, found, Except.bind]
      | some entry =>
          cases entry with
          | file content => simp [walk, found, Except.bind]
          | directory =>
              rw [List.cons_append, walk_cons_of_directory found, walk_cons_of_directory found]
              cases entered location part with
              | error failure => rfl
              | ok next => exact induction next

/-- A walk leads to the same place where the same directories are. -/
theorem walk_of_directories {files other : FileSystem}
    (kept : ∀ location, files.entry? location = some .directory →
      other.entry? location = some .directory)
    {location reached : Location} {parts : List String}
    (walked : files.walk location parts = .ok reached) :
    other.walk location parts = .ok reached := by
  induction parts generalizing location with
  | nil => exact walked
  | cons part parts induction =>
      have found := directory_of_walk_cons walked
      rw [walk_cons_of_directory found] at walked
      rw [walk_cons_of_directory (kept location found)]
      cases leads : entered location part with
      | error failure =>
          rw [leads] at walked
          contradiction
      | ok next =>
          rw [leads] at walked
          exact induction walked

/-- Where paths begin that go on like a path. -/
def base (files : FileSystem) (path : FilePath) : Location :=
  if path.isAbsolute then [] else files.working

theorem IsEntryName.base_join (plain : IsEntryName name) :
    files.base (FilePath.join directory name) = files.base directory := by
  rw [base, plain.isAbsolute_join, base]

theorem walk_singleton_iff {place location : Location} {part : String} :
    files.walk place [part] = .ok location ↔
      files.entry? place = some .directory ∧ entered place part = .ok location := by
  constructor
  · intro walked
    have found := directory_of_walk_cons walked
    rw [walk_cons_of_directory found] at walked
    cases leads : entered place part with
    | error failure =>
        rw [leads] at walked
        contradiction
    | ok next =>
        rw [leads] at walked
        exact ⟨found, walked⟩
  · rintro ⟨found, leads⟩
    rw [walk_cons_of_directory found, leads]
    rfl

theorem walk_append_singleton_iff {start location : Location} {parts : List String}
    {part : String} :
    files.walk start (parts ++ [part]) = .ok location ↔
      ∃ place, files.walk start parts = .ok place ∧
        files.entry? place = some .directory ∧ entered place part = .ok location := by
  rw [walk_append]
  cases reached : files.walk start parts with
  | error failure => simp [Except.bind]
  | ok place => simp [Except.bind, walk_singleton_iff]

theorem IsEntryName.entered_eq (plain : IsEntryName name) (place : Location) :
    entered place name = .ok (place ++ [name]) := by
  rw [entered, if_neg plain.notHere, if_neg plain.notOuter, if_neg (Nat.not_lt.mpr plain.short)]

theorem follow_eq_ok_iff {path : FilePath} {parts : List String} {location : Location} :
    files.follow path parts = .ok location ↔
      '\x00' ∉ path.toList ∧ path.isEmpty = false ∧ path.utf8ByteSize ≤ longestPath ∧
        files.walk (files.base path) parts = .ok location := by
  unfold follow
  split
  case isTrue unclean =>
    have member : '\x00' ∈ path.toList := by simpa using unclean
    simp [member]
  case isFalse clean =>
    have absent : '\x00' ∉ path.toList := by simpa using clean
    split
    case isTrue empty => simp [empty]
    case isFalse present =>
      split
      case isTrue long =>
        have tooLong : ¬path.utf8ByteSize ≤ longestPath := Nat.not_le.mpr long
        simp [tooLong]
      case isFalse short => simp [absent, present, Nat.not_lt.mp short, base]

/-- A slash at the end of a path only asks for a directory. -/
theorem locate_eq_ok_iff {path : FilePath} {location : Location} :
    files.locate path = .ok location ↔
      files.follow path (parts path) = .ok location ∧
        (endsInSlash path = true → files.entry? location = some .directory) := by
  unfold locate
  split
  case isTrue slashed =>
    have here : ∀ place, entered place "." = .ok place := fun _ => rfl
    simp [follow_eq_ok_iff, walk_append_singleton_iff, here, slashed, and_assoc]
  case isFalse unslashed => simp [unslashed]

theorem target_eq_ok {path : FilePath} {location : Location} {found : Option Entry}
    (reached : files.target path = .ok (location, found)) :
    files.follow path (parts path) = .ok location ∧ files.entry? location = found := by
  unfold target at reached
  split at reached
  · contradiction
  case h_2 place followed =>
    simp only [Except.ok.injEq, Prod.mk.injEq] at reached
    obtain ⟨rfl, entry⟩ := reached
    exact ⟨followed, entry⟩

theorem target_of_follow {path : FilePath} {location : Location}
    (followed : files.follow path (parts path) = .ok location) :
    files.target path = .ok (location, files.entry? location) := by
  rw [target, followed]

/-- What leads through directories of one file system leads to the same place in another
one that has them too. -/
theorem follow_of_directories {files other : FileSystem}
    (kept : ∀ location, files.entry? location = some .directory →
      other.entry? location = some .directory)
    (working : other.working = files.working) {path : FilePath} {parts : List String}
    {location : Location} (followed : files.follow path parts = .ok location) :
    other.follow path parts = .ok location := by
  obtain ⟨clean, present, short, walked⟩ := follow_eq_ok_iff.mp followed
  have sameBase : other.base path = files.base path := by rw [base, base, working]
  refine follow_eq_ok_iff.mpr ⟨clean, present, short, ?_⟩
  rw [sameBase]
  exact walk_of_directories kept walked

/-! ## Opening a directory -/

/-- The path of a directory leads to a place where one is.  The empty path means the
working directory. -/
structure Opens (files : FileSystem) (directory : FilePath) (place : Location) : Prop where
  located : if directory.isEmpty then place = files.working
    else files.locate directory = .ok place
  isDirectory : files.entry? place = some .directory

theorem Opens.of_directories {files other : FileSystem} {place : Location}
    (opens : files.Opens directory place)
    (kept : ∀ location, files.entry? location = some .directory →
      other.entry? location = some .directory)
    (working : other.working = files.working) : other.Opens directory place := by
  constructor
  · have located := opens.located
    cases present : directory.isEmpty with
    | true =>
        rw [if_pos present] at located
        exact located.trans working.symm
    | false =>
        rw [present] at located
        exact follow_of_directories kept working located
  · exact kept place opens.isDirectory

namespace Opens

variable {place : Location} (opens : files.Opens directory place)

include opens

theorem follow_eq (present : directory.isEmpty = false) :
    files.follow directory (parts directory) = .ok place := by
  have located := opens.located
  rw [present] at located
  exact (locate_eq_ok_iff.mp located).1

theorem clean : '\x00' ∉ directory.toList := by
  cases present : directory.isEmpty with
  | true => simp [String.isEmpty_iff.mp present]
  | false => exact (follow_eq_ok_iff.mp (opens.follow_eq present)).1

theorem walk_eq : files.walk (files.base directory) (parts directory) = .ok place := by
  cases present : directory.isEmpty with
  | true =>
      have located := opens.located
      rw [if_pos present] at located
      rw [String.isEmpty_iff.mp present, located]
      rfl
  | false => exact (follow_eq_ok_iff.mp (opens.follow_eq present)).2.2.2

theorem walk_join (plain : IsEntryName name) :
    files.walk (files.base (FilePath.join directory name))
      (parts (FilePath.join directory name)) = .ok (place ++ [name]) := by
  rw [plain.base_join, plain.parts_join, walk_append_singleton_iff]
  exact ⟨place, opens.walk_eq, opens.isDirectory, plain.entered_eq place⟩

/-- The path of a file inside a directory leads to the place with its name. -/
theorem follow_join (plain : IsEntryName name)
    (short : (FilePath.join directory name).utf8ByteSize ≤ longestPath) :
    files.follow (FilePath.join directory name) (parts (FilePath.join directory name)) =
      .ok (place ++ [name]) := by
  have present : (FilePath.join directory name).isEmpty = false := by
    cases empty : (FilePath.join directory name).isEmpty with
    | false => rfl
    | true =>
        have nothing : parts (FilePath.join directory name) = _ := plain.parts_join
        rw [String.isEmpty_iff.mp empty] at nothing
        simp [parts, PathShape.between, Unicode.pieces] at nothing
  exact follow_eq_ok_iff.mpr ⟨plain.clean_join opens.clean, present, short, opens.walk_join plain⟩

end Opens

/-- A path to a file inside a directory only leads somewhere if the directory is there. -/
theorem opens_of_follow_join {location : Location} (plain : IsEntryName name)
    (followed : files.follow (FilePath.join directory name)
      (parts (FilePath.join directory name)) = .ok location) :
    ∃ place, location = place ++ [name] ∧ files.Opens directory place := by
  obtain ⟨clean, _, short, walked⟩ := follow_eq_ok_iff.mp followed
  rw [plain.base_join, plain.parts_join, walk_append_singleton_iff] at walked
  obtain ⟨place, reached, isDirectory, leads⟩ := walked
  rw [plain.entered_eq] at leads
  cases leads
  refine ⟨place, rfl, ?_, isDirectory⟩
  cases present : directory.isEmpty with
  | true =>
      rw [String.isEmpty_iff.mp present] at reached
      cases reached
      rfl
  | false =>
      obtain ⟨slash, _, joined⟩ : ∃ slash ∈ ["", "/"],
          FilePath.join directory name = directory ++ slash ++ name := plain.join_eq_append
      rw [joined] at clean short
      have cleanDirectory : '\x00' ∉ directory.toList := by
        intro member
        apply clean
        simp [member]
      have shortDirectory : directory.utf8ByteSize ≤ longestPath := by
        rw [String.utf8ByteSize_append, String.utf8ByteSize_append] at short
        omega
      have found := follow_eq_ok_iff.mpr ⟨cleanDirectory, present, shortDirectory, reached⟩
      exact locate_eq_ok_iff.mpr ⟨found, fun _ => isDirectory⟩

end FileSystem

end DocsConsole
