import DocsConsole.Files.Path
import DocsConsole.Web.Host
import DocsConsole.Web.Path

/-!
# Addresses of files

An address that begins with `file://` names a file of this computer if it has no
host or the host `localhost`.
-/

namespace DocsConsole.Web

/-- An address without blanks and controls around it and without tabs and line ends in it. -/
def cleaned (source : List Char) : List Char :=
  let outer (c : Char) : Bool := c.toNat ≤ 0x20
  let inner := Unicode.dropEndWhile outer (source.dropWhile outer)
  inner.filter fun c => !(c = '\t' || c = '\n' || c = '\r')

/-- What follows a text at the beginning of another one. -/
def after? (opening : List Char) (source : List Char) : Option (List Char) :=
  if opening.isPrefixOf source then some (source.drop opening.length) else none

/-- The part of an address in front of its query and its fragment. -/
def beforeQuery (source : List Char) : List Char :=
  source.takeWhile fun c => !(c = '?' || c = '#')

/-- The path that an address of a file stands for, in the notation of addresses. -/
def fileAddressPath? (address : List Char) : Option (List Char) :=
  match after? "file://".toList (cleaned address) with
  | none => none
  | some rest =>
      let hostText := rest.takeWhile fun c => !(c = '/' || c = '\\' || c = '?' || c = '#')
      let afterHost := beforeQuery (rest.drop hostText.length)
      if isDriveLetter hostText then
        some (readPath true ⟨['/'], false⟩ (beforeQuery rest)).written
      else if hostText.isEmpty then some (readPath true ⟨[], true⟩ afterHost).written
      else
        match readHost? hostText with
        | none => none
        | some "localhost" => some (readPath true ⟨[], true⟩ afterHost).written
        | some _ =>
            let opened := match afterHost with
              | '/' :: more => more
              | '\\' :: more => more
              | more => more
            let result := readPath true ⟨['/'], true⟩ opened
            if result.hasHost then none else some result.written

/-- The path of the file that an address names.  A path that ends in a drive letter gets a
slash. -/
def filePath? (address : String) : Option FilePath :=
  (fileAddressPath? address.toList).map fun path =>
    let text := Utf8.replacing (percentDecode (String.ofList path))
    if text.toList.length > 2 ∧ isDriveLetter (text.toList.drop (text.toList.length - 2)) then
      text ++ "/"
    else text

end DocsConsole.Web
