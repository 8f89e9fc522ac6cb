import DocsConsole.CoreInstances
import DocsConsole.Web.FileAddress

/-!
# Web addresses

The address of a page of the web: whether the connection is secure, the host, the
port if it is given, the path and the query.
-/

namespace DocsConsole.Web

open scoped CoreInstances

/-- The address of a page. -/
structure Url where
  secure : Bool
  host : String
  port : Option Nat
  path : String
  query : Option String
deriving DecidableEq, Repr, Inhabited

namespace Url

/-- A slash of either kind. -/
def isSlash (c : Char) : Bool :=
  c = '/' || c = '\\'

/-- A text with its ASCII letters in lower case. -/
def lowered (text : List Char) : List Char :=
  text.map Char.toLower

/-- Whether the connection is secure, and what follows the scheme. -/
def scheme? (source : List Char) : Option (Bool × List Char) :=
  let name := source.takeWhile (· ≠ ':')
  let rest := source.drop (name.length + 1)
  if name.length = source.length then none
  else if lowered name = "http".toList then some (false, rest)
  else if lowered name = "https".toList then some (true, rest)
  else none

/-- A text up to its last `@` is about the user; the rest is kept. -/
def withoutUser (authority : List Char) : List Char :=
  (authority.reverse.takeWhile (· ≠ '@')).reverse

/-- The host of an authority and what follows it; a colon in brackets does not end it. -/
def splitHost (authority : List Char) : List Char × List Char :=
  let bracketed :=
    if authority.head? = some '[' then authority.takeWhile (· ≠ ']') else []
  let rest := authority.drop bracketed.length
  let more := rest.takeWhile (· ≠ ':')
  (bracketed ++ more, rest.drop more.length)

/-- A port of sixteen bits; it may be left out after its colon. -/
def port? : List Char → Option (Option Nat)
  | [] => some none
  | ':' :: digits =>
      if digits.isEmpty then some none
      else if digits.all Char.isDigit ∧ Unicode.decimalValue digits < 2 ^ (16 : Nat) then
        some (some (Unicode.decimalValue digits))
      else none
  | _ => none

/-- The query of what follows an authority. -/
def queryOf (source : List Char) : Option String :=
  match (source.takeWhile (· ≠ '#')).dropWhile (· ≠ '?') with
  | '?' :: query => some (String.ofList (percentEncode encodedInQuery query))
  | _ => none

def read? (text : String) : Option Url := do
  let (secure, afterScheme) ← scheme? (cleaned text.toList)
  let source := afterScheme.dropWhile isSlash
  let authority := source.takeWhile fun c => !(isSlash c || c = '?' || c = '#')
  let rest := source.drop authority.length
  let (hostText, portText) := splitHost (withoutUser authority)
  let host ← readHost? hostText
  let port ← port? portText
  let opened := if rest.head?.any isSlash then rest.drop 1 else rest
  let path := (readPath false ⟨['/'], true⟩ (beforeQuery opened)).written
  some ⟨secure, host, port, String.ofList path, queryOf rest⟩

/-- The path and the query as they are sent. -/
def target (url : Url) : String :=
  match url.query with
  | some query => url.path ++ "?" ++ query
  | none => url.path

end Url

end DocsConsole.Web
