import DocsConsole.CoreInstances
import DocsConsole.Session.Request

/-!
# Forms

A form is sent in parts, each with a header and a body.  The header names the
field and, for a file, the file; in the name of a file a backslash stands before
each quote, backslash and line end, so that the name can be read back.
-/

namespace DocsConsole.Backend

open scoped CoreInstances

structure Part where
  headers : List String
  body : ByteArray
deriving DecidableEq, Inhabited

/-- What a part says. -/
structure Field where
  name : String
  fileName : Option String
  body : ByteArray
deriving DecidableEq, Inhabited

/-- A character of the name of a file. -/
def escapeNameChar (c : Char) : List Char :=
  if c = '\\' ∨ c = '\x22' ∨ c = '\r' ∨ c = '\n' then ['\\', c] else [c]

/-- The name of a file as it stands between quotes. -/
def escapeName (name : List Char) : List Char :=
  name.flatMap escapeNameChar

/-- The beginning of the header of a part. -/
def dispositionStart : List Char := "Content-Disposition: form-data; name=\"".toList

/-- What stands in a header between the name of the field and that of the file. -/
def fileNameStart : List Char := "\"; filename=\"".toList

namespace Field

/-- The header of the part of a field. -/
def header (field : Field) : List Char :=
  match field.fileName with
  | none => dispositionStart ++ field.name.toList ++ ['\x22']
  | some fileName =>
      dispositionStart ++ field.name.toList ++ fileNameStart ++ escapeName fileName.toList ++
        ['\x22']

def toPart (field : Field) : Part :=
  ⟨[String.ofList field.header], field.body⟩

def ofText (name text : String) : Field :=
  ⟨name, none, text.toUTF8⟩

def ofFile (name : String) (file : UploadedFile) : Field :=
  ⟨name, some file.name, file.content⟩

/-- Reads the name of a file up to its closing quote. -/
def unescapeName : List Char → Option (List Char)
  | ['\x22'] => some []
  | '\\' :: c :: rest => (unescapeName rest).map (c :: ·)
  | '\x22' :: _ :: _ => none
  | c :: rest => (unescapeName rest).map (c :: ·)
  | [] => none

/-- Reads the header of a part: the names of the field and of the file. -/
def readHeader? (header : List Char) : Option (List Char × Option (List Char)) :=
  if dispositionStart.isPrefixOf header then
    let rest := header.drop dispositionStart.length
    let name := rest.takeWhile (· ≠ '\x22')
    let after := rest.drop name.length
    if after = ['\x22'] then some (name, none)
    else if fileNameStart.isPrefixOf after then
      (unescapeName (after.drop fileNameStart.length)).map fun fileName => (name, some fileName)
    else none
  else none

/-- The field that a part says. -/
def ofPart? (part : Part) : Option Field :=
  match part.headers with
  | [header] =>
      (readHeader? header.toList).map fun (name, fileName) =>
        ⟨String.ofList name, fileName.map String.ofList, part.body⟩
  | _ => none

end Field

/-- The fields of a request for documentation: the files and three texts. -/
def docsFields (request : DocsRequest) : List Field :=
  request.files.map (Field.ofFile "files") ++
    [.ofText "purpose" request.purpose.name, .ofText "project_name" request.projectName,
      .ofText "custom_instructions" request.instructions]

/-- The fields of a request for a report. -/
def qualityFields (file : UploadedFile) : List Field :=
  [.ofFile "file" file]

end DocsConsole.Backend
