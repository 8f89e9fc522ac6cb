import DocsConsole.CoreInstances
import DocsConsole.Files.System
import DocsConsole.Text.Quoted

/-!
# Uploaded files

A file picked by the user is read at once and kept with its content.  Content of
any kind and size is taken as it is.
-/

namespace DocsConsole

open scoped CoreInstances

/-- Which list files are meant for. -/
inductive IntakeTarget where
  /-- The files to generate documentation from. -/
  | documentation
  /-- The one file whose quality is analysed. -/
  | quality
deriving DecidableEq, Repr, Inhabited

/-- A file picked by the user. -/
structure UploadedFile where
  /-- The last part of the path. -/
  name : String
  path : FilePath
  content : ByteArray
deriving DecidableEq, Inhabited

/-- A quotient rounded to a whole number, with a half going to the even neighbour. -/
def roundedQuotient (dividend divisor : Nat) : Nat :=
  let quotient := dividend / divisor
  let rest := dividend % divisor
  if 2 * rest < divisor ∨ (2 * rest = divisor ∧ quotient % 2 = 0) then quotient
  else quotient + 1

/-- A quotient with one decimal place. -/
def oneDecimal (dividend divisor : Nat) : String :=
  let tenths := roundedQuotient (dividend * 10) divisor
  toString (tenths / 10) ++ "." ++ toString (tenths % 10)

/-- A number of bytes as it is shown. -/
def sizeLabel (size : Nat) : String :=
  if size < 1024 then toString size ++ " B"
  else if size < 1024 * 1024 then oneDecimal size 1024 ++ " KB"
  else oneDecimal size (1024 * 1024) ++ " MB"

namespace UploadedFile

/-- Reads a file.  A path without a last part gives its whole text as the name. -/
def read (files : FileSystem) (path : FilePath) : Except FileError UploadedFile :=
  match files.read path with
  | .ok content => .ok ⟨(FilePath.fileName? path).getD path, path, content⟩
  | .error failure => .error failure

def size (file : UploadedFile) : Nat :=
  file.content.size

/-- A description without the content. -/
def describe (file : UploadedFile) : String :=
  "UploadedFile \x7b name: " ++ Text.quoted file.name ++ ", path: " ++ Text.quoted file.path ++
    ", size: " ++ toString file.size ++ " \x7d"

end UploadedFile

end DocsConsole
