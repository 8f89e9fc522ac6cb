import DocsConsole.Files.Path

/-!
# The command line

Options begin with a hyphen, and everything else is the path of a file.  Short
options can share a hyphen, and an option takes its value from the same argument
or from the next one.
-/

namespace DocsConsole

/-- What the command line asks for. -/
structure Options where
  /-- Files to generate documentation from. -/
  files : List FilePath
  /-- The file to analyse. -/
  quality : Option FilePath
  backendUrl : Option String
  downloadDirectory : Option FilePath
  verbosity : Nat
deriving DecidableEq, Repr, Inhabited

/-- Why the command line gives no options. -/
inductive OptionsError where
  | help
  | version
  | unknownArgument
  | invalidValue
  | tooManyValues
  | repeated
deriving DecidableEq, Repr

namespace CommandLine

/-- The options that take a value. -/
inductive ValueOption where
  | quality
  | backendUrl
  | downloadDirectory
deriving DecidableEq, Repr

/-- The options. -/
inductive Flag where
  | value (option : ValueOption)
  | verbose
  | help
  | version
deriving DecidableEq, Repr

def longFlag? (name : String) : Option Flag :=
  match name with
  | "quality" => some (.value .quality)
  | "backend-url" => some (.value .backendUrl)
  | "download-dir" => some (.value .downloadDirectory)
  | "verbose" => some .verbose
  | "help" => some .help
  | "version" => some .version
  | _ => none

def shortFlag? : Char → Option Flag
  | 'q' => some (.value .quality)
  | 'v' => some .verbose
  | 'h' => some .help
  | 'V' => some .version
  | _ => none

/-- What has been read and is not settled yet. -/
inductive Pending where
  | nothing
  /-- An option without its value. -/
  | opened (option : ValueOption)
  | valued (option : ValueOption) (value : String)
  | paths (paths : List String)
deriving Repr

/-- The state of the reader. -/
structure Progress where
  options : Options
  pending : Pending
  /-- Whether only paths are left. -/
  trailing : Bool

def Progress.start : Progress :=
  ⟨⟨[], none, none, none, 0⟩, .nothing, false⟩

/-- Gives an option its value.  No option is given twice, and a path is not empty. -/
def setOption (options : Options) (option : ValueOption) (value : String) :
    Except OptionsError Options :=
  match option with
  | .quality =>
      if options.quality.isSome then .error .repeated
      else if value.isEmpty then .error .invalidValue
      else .ok { options with quality := some value }
  | .backendUrl =>
      if options.backendUrl.isSome then .error .repeated
      else .ok { options with backendUrl := some value }
  | .downloadDirectory =>
      if options.downloadDirectory.isSome then .error .repeated
      else if value.isEmpty then .error .invalidValue
      else .ok { options with downloadDirectory := some value }

def settle (progress : Progress) : Except OptionsError Progress :=
  match progress.pending with
  | .nothing => .ok progress
  | .opened _ => .error .invalidValue
  | .valued option value =>
      (setOption progress.options option value).map fun options =>
        { progress with options := options, pending := .nothing }
  | .paths paths =>
      if paths.contains "" then .error .invalidValue
      else
        .ok { progress with
          options := { progress.options with files := progress.options.files ++ paths }
          pending := .nothing }

/-- Reads an option without a value. -/
def applyFlag (progress : Progress) (flag : Flag) : Except OptionsError Progress :=
  (settle progress).bind fun settled =>
    match flag with
    | .help => .error .help
    | .version => .error .version
    | .verbose =>
        .ok { settled with
          options :=
            { settled.options with verbosity := min 255 (settled.options.verbosity + 1) } }
    | .value option => .ok { settled with pending := .opened option }

/-- Reads an option with a value in the same argument. -/
def applyValue (progress : Progress) (option : ValueOption) (value : String) :
    Except OptionsError Progress :=
  (settle progress).bind fun settled =>
    (setOption settled.options option value).map fun options =>
      { settled with options := options }

/-- Reads an argument with a long name. -/
def readLong (progress : Progress) (text : List Char) : Except OptionsError Progress :=
  let name := text.takeWhile (· ≠ '=')
  match longFlag? (String.ofList name), text.drop name.length with
  | none, _ => .error .unknownArgument
  | some (.value option), '=' :: value => applyValue progress option (String.ofList value)
  | some _, '=' :: _ => .error .tooManyValues
  | some flag, _ => applyFlag progress flag

/-- Reads short names that share a hyphen.  What follows the name of an option with a value
is the value. -/
def readShort (progress : Progress) : List Char → Except OptionsError Progress
  | [] => .ok progress
  | letter :: rest =>
      match shortFlag? letter, rest with
      | none, _ => .error .unknownArgument
      | some (.value option), '=' :: value => applyValue progress option (String.ofList value)
      | some (.value option), _ :: _ => applyValue progress option (String.ofList rest)
      | some flag, _ => (applyFlag progress flag).bind fun next => readShort next rest

def readPath (progress : Progress) (path : String) : Except OptionsError Progress :=
  match progress.pending with
  | .paths paths => .ok { progress with pending := .paths (paths ++ [path]) }
  | _ => (settle progress).map fun settled => { settled with pending := .paths [path] }

def readArgument (progress : Progress) (argument : String) : Except OptionsError Progress :=
  if progress.trailing then readPath progress argument
  else
    match argument.toList with
    | ['-', '-'] => .ok { progress with trailing := true }
    | '-' :: '-' :: text => readLong progress text
    | '-' :: letter :: text => readShort progress (letter :: text)
    | _ =>
        match progress.pending with
        | .opened option => .ok { progress with pending := .valued option argument }
        | _ => readPath progress argument

end CommandLine

/-- Reads the arguments that follow the name of the program. -/
def Options.read (arguments : List String) : Except OptionsError Options :=
  ((arguments.foldlM CommandLine.readArgument CommandLine.Progress.start).bind
    CommandLine.settle).map (·.options)

def OptionsError.exitCode : OptionsError → Nat
  | .help => 0
  | .version => 0
  | _ => 2

end DocsConsole
