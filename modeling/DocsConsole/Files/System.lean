import DocsConsole.CoreInstances
import DocsConsole.Files.Path
import DocsConsole.Text.Utf8

/-!
# A file system

A file system is a list of files and directories, each with its location: the
names that lead to it from the root.  Paths are followed from the root or from
the working directory.  Operations that change the file system give back the new
one, also when they fail half way.
-/

namespace DocsConsole

open scoped CoreInstances

/-- Why an operation on files fails. -/
inductive FileError where
  | notFound
  | notDirectory
  | isDirectory
  | alreadyExists
  | nameTooLong
  /-- A path holds a zero character. -/
  | zeroInPath
  /-- A file that should hold text does not. -/
  | notText
deriving DecidableEq, Repr, Inhabited

def FileError.message : FileError → String
  | .notFound => "No such file or directory (os error 2)"
  | .notDirectory => "Not a directory (os error 20)"
  | .isDirectory => "Is a directory (os error 21)"
  | .alreadyExists => "File exists (os error 17)"
  | .nameTooLong => "File name too long (os error 36)"
  | .zeroInPath => "file name contained an unexpected NUL byte"
  | .notText => "stream did not contain valid UTF-8"

/-- What is found at a location. -/
inductive Entry where
  | directory
  | file (content : ByteArray)
deriving DecidableEq, Inhabited

/-- The names that lead to an entry from the root. -/
abbrev Location := List String

/-- A file system.  The root is always there and is not listed. -/
structure FileSystem where
  entries : List (Location × Entry)
  /-- Where paths that do not begin at the root begin. -/
  working : Location
deriving Inhabited

namespace FileSystem

def entry? (files : FileSystem) (location : Location) : Option Entry :=
  if location.isEmpty then some .directory
  else (files.entries.find? (·.1 = location)).map (·.2)

/-- Puts an entry at a location.  One that was there keeps its place in the list. -/
def putEntry (location : Location) (entry : Entry) :
    List (Location × Entry) → List (Location × Entry)
  | [] => [(location, entry)]
  | (other, old) :: rest =>
      if other = location then (location, entry) :: rest
      else (other, old) :: putEntry location entry rest

def put (files : FileSystem) (location : Location) (entry : Entry) : FileSystem :=
  { files with entries := putEntry location entry files.entries }

/-- The longest name of an entry, in bytes. -/
def longestName : Nat := 255

/-- The longest path, in bytes. -/
def longestPath : Nat := 4095

/-- Follows the parts of a path.  All but the last have to be directories. -/
def walk (files : FileSystem) (location : Location) : List String → Except FileError Location
  | [] => .ok location
  | part :: rest =>
      match files.entry? location with
      | none => .error .notFound
      | some (.file _) => .error .notDirectory
      | some .directory =>
          if part = "." then files.walk location rest
          else if part = ".." then files.walk location.dropLast rest
          else if part.utf8ByteSize > longestName then .error .nameTooLong
          else files.walk (location ++ [part]) rest

/-- The parts of a path that count when it is followed. -/
def parts (path : FilePath) : List String :=
  ((PathShape.between path.toList).filter (!·.isEmpty)).map String.ofList

/-- Whether a path ends in a slash and so means a directory. -/
def endsInSlash (path : FilePath) : Bool :=
  path.toList.getLast? = some '/'

/-- Follows some parts from where a path begins. -/
def follow (files : FileSystem) (path : FilePath) (parts : List String) :
    Except FileError Location :=
  if path.toList.contains '\x00' then .error .zeroInPath
  else if path.isEmpty then .error .notFound
  else if path.utf8ByteSize > longestPath then .error .nameTooLong
  else files.walk (if path.isAbsolute then [] else files.working) parts

/-- The location that a path leads to; there may be nothing. -/
def locate (files : FileSystem) (path : FilePath) : Except FileError Location :=
  files.follow path (if endsInSlash path then parts path ++ ["."] else parts path)

/-- What a path leads to. -/
def find (files : FileSystem) (path : FilePath) : Except FileError Entry :=
  match files.locate path with
  | .error failure => .error failure
  | .ok location =>
      match files.entry? location with
      | some entry => .ok entry
      | none => .error .notFound

def pathExists (files : FileSystem) (path : FilePath) : Bool :=
  match files.find path with
  | .ok _ => true
  | .error _ => false

def isDirectory (files : FileSystem) (path : FilePath) : Bool :=
  match files.find path with
  | .ok .directory => true
  | _ => false

def read (files : FileSystem) (path : FilePath) : Except FileError ByteArray :=
  match files.find path with
  | .ok (.file content) => .ok content
  | .ok .directory => .error .isDirectory
  | .error failure => .error failure

def readText (files : FileSystem) (path : FilePath) : Except FileError String :=
  match files.read path with
  | .error failure => .error failure
  | .ok content =>
      match Utf8.text? content with
      | some text => .ok text
      | none => .error .notText

/-- The entries right inside a directory, with their names, in the order of the list. -/
def listing (files : FileSystem) (path : FilePath) : Except FileError (List (String × Entry)) :=
  match files.locate path with
  | .error failure => .error failure
  | .ok location =>
      match files.entry? location with
      | none => .error .notFound
      | some (.file _) => .error .notDirectory
      | some .directory =>
          .ok (files.entries.filterMap fun (place, entry) =>
            match place.getLast? with
            | some name => if place.dropLast = location then some (name, entry) else none
            | none => none)

/-- The result of an operation that may change the file system. -/
abbrev Change (α : Type) := Except FileError α × FileSystem

/-- The location that a path leads to when an entry is to be put there, with what is found
there. -/
def target (files : FileSystem) (path : FilePath) :
    Except FileError (Location × Option Entry) :=
  match files.follow path (parts path) with
  | .error failure => .error failure
  | .ok location => .ok (location, files.entry? location)

/-- Makes a directory inside one that is there. -/
def makeDirectory (files : FileSystem) (path : FilePath) : Change Unit :=
  match files.target path with
  | .error failure => (.error failure, files)
  | .ok (_, some _) => (.error .alreadyExists, files)
  | .ok (location, none) => (.ok (), files.put location .directory)

/-- Makes directories one after another; one that is there is left alone. -/
def makeEach (files : FileSystem) : List FilePath → Change Unit
  | [] => (.ok (), files)
  | path :: rest =>
      match files.makeDirectory path with
      | (.ok (), changed) => changed.makeEach rest
      | (.error failure, changed) =>
          if failure = .alreadyExists ∧ changed.isDirectory path then changed.makeEach rest
          else (.error failure, changed)

/-- Goes outwards through the ancestors of a directory to one that can be made or is there,
and then makes those that were passed. -/
def makeInside (files : FileSystem) (passed : List FilePath) : List FilePath → Change Unit
  | [] => files.makeEach passed
  | path :: outer =>
      match files.makeDirectory path with
      | (.ok (), changed) => changed.makeEach passed
      | (.error .notFound, unchanged) => unchanged.makeInside (path :: passed) outer
      | (.error failure, unchanged) =>
          if failure = .alreadyExists ∧ unchanged.isDirectory path then
            unchanged.makeEach passed
          else (.error failure, unchanged)

/-- Makes a directory and those that it lies in. -/
def makeDirectories (files : FileSystem) (path : FilePath) : Change Unit :=
  files.makeInside []
    ((FilePath.ancestors path).takeWhile fun outer =>
      !outer.isEmpty && (FilePath.parent? outer).isSome)

/-- Writes a file inside a directory that is there, replacing its content. -/
def write (files : FileSystem) (path : FilePath) (content : ByteArray) : Change Unit :=
  match files.target path with
  | .error failure => (.error failure, files)
  | .ok (_, some .directory) => (.error .isDirectory, files)
  | .ok (location, _) =>
      if endsInSlash path then (.error .isDirectory, files)
      else (.ok (), files.put location (.file content))

/-- Puts an entry at a location together with the directories that lead to it. -/
def plant (files : FileSystem) (location : Location) (entry : Entry) : FileSystem :=
  let outer := (List.range location.length).map fun count => location.take count
  let rooted := outer.foldl
    (fun (files : FileSystem) place =>
      if place.isEmpty || (files.entry? place).isSome then files else files.put place .directory)
    files
  if (rooted.entry? location).isSome ∧ entry = .directory then rooted
  else rooted.put location entry

end FileSystem

end DocsConsole
