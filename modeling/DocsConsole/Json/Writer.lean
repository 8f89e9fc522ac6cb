import DocsConsole.Json.Token

/-!
# Writing JSON

The compact text of a value: its tokens, without blanks between them.
-/

namespace DocsConsole.Json

mutual

def tokens : Json → List JsonToken
  | .null => [.null]
  | .bool value => [.bool value]
  | .number value => [.number (some value)]
  | .string text => [.string (some text)]
  | .array [] => [.openArray, .closeArray]
  | .array (item :: items) => .openArray :: tokens item ++ itemTokens items
  | .object [] => [.openObject, .closeObject]
  | .object ((name, member) :: members) =>
      .openObject :: .string (some name) :: .colon :: tokens member ++ memberTokens members

/-- The tokens of the items of an array that follow the first. -/
def itemTokens : List Json → List JsonToken
  | [] => [.closeArray]
  | item :: items => .comma :: tokens item ++ itemTokens items

/-- The tokens of the members of an object that follow the first. -/
def memberTokens : List (String × Json) → List JsonToken
  | [] => [.closeObject]
  | (name, member) :: members =>
      .comma :: .string (some name) :: .colon :: tokens member ++ memberTokens members

end

/-- The compact text of a value. -/
def write (value : Json) : String :=
  String.ofList ((tokens value).flatMap JsonToken.write)

end DocsConsole.Json
