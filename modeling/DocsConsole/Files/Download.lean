import DocsConsole.Files.System
import DocsConsole.Purpose

/-!
# Downloads

Generated content and its preview are written to a directory, which is made if
it is not there.
-/

namespace DocsConsole

namespace FileSystem

/-- Writes a file into a directory, and gives its path. -/
def writeInside (files : FileSystem) (directory : FilePath) (name : String)
    (content : ByteArray) : Change FilePath :=
  match files.makeDirectories directory with
  | (.error failure, changed) => (.error failure, changed)
  | (.ok (), changed) =>
      let path := FilePath.join directory name
      match changed.write path content with
      | (.error failure, final) => (.error failure, final)
      | (.ok (), final) => (.ok path, final)

def saveGenerated (files : FileSystem) (directory : FilePath) (purpose : Purpose)
    (content : String) : Change FilePath :=
  files.writeInside directory purpose.fileName content.toUTF8

/-- A page around markup. -/
def previewPage (title markup : String) : String :=
  "<!DOCTYPE html>\n<html>\n<head><meta charset=\"utf-8\"><title>" ++ title ++
    "</title></head>\n<body>\n" ++ markup ++ "</body>\n</html>\n"

/-- Saves a preview under a name without extension. -/
def savePreview (files : FileSystem) (directory : FilePath) (stem markup : String) :
    Change FilePath :=
  files.writeInside directory (stem ++ ".html") (previewPage stem markup).toUTF8

end FileSystem

end DocsConsole
