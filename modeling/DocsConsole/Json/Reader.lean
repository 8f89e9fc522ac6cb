import DocsConsole.Json.Token

/-!
# Reading JSON

A JSON text is first read as a `JsonText`, a tree in which a number may be out
of range and a string without text.  What is made of it depends on who reads it:
a part that nobody looks at may hold such numbers and strings and may be nested
to any depth, while a `Json` value has neither and is nested to a limit.
-/

namespace DocsConsole

/-- A JSON text as a tree. -/
inductive JsonText where
  | null
  | bool (value : Bool)
  | number (value : Option JsonNumber)
  | string (text : Option String)
  | array (items : List JsonText)
  | object (members : List (Option String × JsonText))
deriving Repr, Inhabited

namespace JsonText

mutual

/-- The tree at the start of some tokens, and the rest of them. -/
def readValue : Nat → List JsonToken → Option (JsonText × List JsonToken)
  | _, .null :: rest => some (.null, rest)
  | _, .bool value :: rest => some (.bool value, rest)
  | _, .number value :: rest => some (.number value, rest)
  | _, .string text :: rest => some (.string text, rest)
  | _, .openArray :: .closeArray :: rest => some (.array [], rest)
  | _, .openObject :: .closeObject :: rest => some (.object [], rest)
  | fuel + 1, .openArray :: rest =>
      (readItems fuel rest).map fun (items, after) => (.array items, after)
  | fuel + 1, .openObject :: rest =>
      (readMembers fuel rest).map fun (members, after) => (.object members, after)
  | _, _ => none

/-- The items of an array up to its closing bracket. -/
def readItems : Nat → List JsonToken → Option (List JsonText × List JsonToken)
  | 0, _ => none
  | fuel + 1, tokens =>
      match readValue fuel tokens with
      | some (item, .comma :: rest) =>
          (readItems fuel rest).map fun (items, after) => (item :: items, after)
      | some (item, .closeArray :: rest) => some ([item], rest)
      | _ => none

/-- The members of an object up to its closing brace. -/
def readMembers :
    Nat → List JsonToken → Option (List (Option String × JsonText) × List JsonToken)
  | fuel + 1, .string name :: .colon :: tokens =>
      match readValue fuel tokens with
      | some (value, .comma :: rest) =>
          (readMembers fuel rest).map fun (members, after) => ((name, value) :: members, after)
      | some (value, .closeObject :: rest) => some ([(name, value)], rest)
      | _ => none
  | _, _ => none

end

/-- The tree of some tokens.  Each step of the reader but every other one takes a token. -/
def ofTokens? (tokens : List JsonToken) : Option JsonText :=
  match readValue (2 * tokens.length) tokens with
  | some (text, []) => some text
  | _ => none

/-- Reads a source that may hold bytes outside characters. -/
def ofSource? (source : JsonToken.Source) : Option JsonText :=
  (JsonToken.ofSource source).bind ofTokens?

def ofString? (text : String) : Option JsonText :=
  ofSource? (text.toList.map some)

/-- How deep arrays and objects may be nested in what is read. -/
def depthLimit : Nat := 127

mutual

/-- The value of a tree whose arrays and objects are nested up to a depth. -/
def value? : Nat → JsonText → Option Json
  | _, .null => some .null
  | _, .bool value => some (.bool value)
  | _, .number value => value.map .number
  | _, .string text => text.map .string
  | 0, .array _ => none
  | 0, .object _ => none
  | depth + 1, .array items => (values? depth items).map .array
  | depth + 1, .object members => (memberValues? depth [] members).map .object

def values? : Nat → List JsonText → Option (List Json)
  | _, [] => some []
  | depth, item :: items =>
      match value? depth item with
      | some value => (values? depth items).map (value :: ·)
      | none => none

/-- The members of an object after those already read.  A name that comes again replaces
the value. -/
def memberValues? :
    Nat → List (String × Json) → List (Option String × JsonText) → Option (List (String × Json))
  | _, found, [] => some found
  | depth, found, (name?, member) :: members =>
      match name?, value? depth member with
      | some name, some value => memberValues? depth (Json.setMember found name value) members
      | _, _ => none

end

mutual

/-- A value as a tree. -/
def ofValue : Json → JsonText
  | .null => .null
  | .bool value => .bool value
  | .number value => .number (some value)
  | .string text => .string (some text)
  | .array items => .array (ofValues items)
  | .object members => .object (ofMembers members)

/-- The items of an array as trees. -/
def ofValues : List Json → List JsonText
  | [] => []
  | item :: items => ofValue item :: ofValues items

/-- The members of an object as trees. -/
def ofMembers : List (String × Json) → List (Option String × JsonText)
  | [] => []
  | (name, member) :: members => (some name, ofValue member) :: ofMembers members

end

/-! ## Parts of a tree -/

def text? : JsonText → Option String
  | .string text => text
  | _ => none

def bool? : JsonText → Option Bool
  | .bool value => some value
  | _ => none

/-- What is read of a part that may be null. -/
def optional {α : Type} (read : JsonText → Option α) : JsonText → Option (Option α)
  | .null => some none
  | text => (read text).map some

/-- What is read of each item of an array. -/
def list {α : Type} (read : JsonText → Option α) : JsonText → Option (List α)
  | .array items => items.mapM read
  | _ => none

/-- The member of a given name, which may occur once at most. -/
def single? (name : String) (members : List (Option String × JsonText)) :
    Option (Option JsonText) :=
  match members.filter (·.1 == some name) with
  | [] => some none
  | [(_, member)] => some (some member)
  | _ => none

/-- The fields of a record, given by name as an object or in their order as an array.  A field
may be missing, other members of an object are left out, and an array is no longer than the
record. -/
def fields? (names : List String) : JsonText → Option (List (Option JsonText))
  | .object members =>
      if members.all (·.1.isSome) then names.mapM fun name => single? name members else none
  | .array items =>
      if items.length ≤ names.length then
        some (items.map some ++ List.replicate (names.length - items.length) none)
      else none
  | _ => none

/-- A field that counts as null when it is missing. -/
def field? {α : Type} (read : JsonText → Option α) : Option JsonText → Option (Option α)
  | none => some none
  | some text => optional read text

end JsonText

namespace Json

def read? (text : String) : Option Json :=
  (JsonText.ofString? text).bind (JsonText.value? JsonText.depthLimit)

end Json

end DocsConsole
