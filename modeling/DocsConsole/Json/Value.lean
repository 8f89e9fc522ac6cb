/-!
# JSON values

A number is an integer of 64 bits, signed or unsigned, or a double, kept by its
bits.  The members of an object keep the order in which they were first seen.
-/

namespace DocsConsole

inductive JsonNumber where
  | integer (value : Int)
  | double (bits : UInt64)
deriving DecidableEq, Repr, Inhabited

inductive Json where
  | null
  | bool (value : Bool)
  | number (value : JsonNumber)
  | string (value : String)
  | array (items : List Json)
  | object (members : List (String × Json))
deriving Repr, Inhabited

namespace Json

/-- Adds a member; one with the same name keeps its place and gets the new value. -/
def setMember (members : List (String × Json)) (name : String) (value : Json) :
    List (String × Json) :=
  match members with
  | [] => [(name, value)]
  | (key, old) :: rest =>
      if key = name then (key, value) :: rest else (key, old) :: setMember rest name value

def isNull : Json → Bool
  | .null => true
  | _ => false

/-- The member of an object with a given name. -/
def member? (name : String) : Json → Option Json
  | .object members => (members.find? (·.1 == name)).map (·.2)
  | _ => none

/-- The text that an optional text stands for. -/
def ofOption (text : Option String) : Json :=
  match text with
  | some value => .string value
  | none => .null

/-- A number that is a natural number. -/
def ofNat (value : Nat) : Json :=
  .number (.integer value)

end Json

end DocsConsole
