import DocsConsole.Toml.Scalar
import DocsConsole.Toml.Text

/-!
# Statements of a TOML document

A document is a list of statements, one on a line: a header, which names the
table that what follows belongs to, or a key with its value.
-/

namespace DocsConsole.Toml

inductive Statement where
  /-- The header of a table. -/
  | header (path : List String)
  /-- The header of one more table of several. -/
  | nextHeader (path : List String)
  /-- A key, which lies in the tables of a path, and its value. -/
  | entry (path : List String) (key : String) (value : Value)
deriving Repr

/-- What follows the blanks at the beginning. -/
def skipBlanks (source : List Char) : List Char :=
  source.dropWhile isBlank

/-- What follows a comment; a character that may not stand in one ends it. -/
def skipComment : List Char → List Char
  | '#' :: rest => rest.dropWhile isPlain
  | source => source

/-- What follows the blanks, the comment and the end of a line. -/
def lineEnd? (source : List Char) : Option (List Char) :=
  match skipComment (skipBlanks source) with
  | [] => some []
  | '\n' :: rest => some rest
  | '\r' :: '\n' :: rest => some rest
  | _ => none

/-- What follows blanks, comments and line ends.  A comment has to be ended by a line end. -/
def skipSpace (fuel : Nat) (source : List Char) : Option (List Char) :=
  match fuel, skipBlanks source with
  | less + 1, '\n' :: rest => skipSpace less rest
  | less + 1, '\r' :: '\n' :: rest => skipSpace less rest
  | less + 1, '#' :: rest =>
      match rest.dropWhile isPlain with
      | '\n' :: more => skipSpace less more
      | '\r' :: '\n' :: more => skipSpace less more
      | _ => none
  | _, rest => some rest

/-- A character of a key without quotes. -/
def isKeyChar (c : Char) : Bool :=
  c.isAlphanum || c = '-' || c = '_'

def keyPart? (source : List Char) : Option (String × List Char) :=
  match source with
  | '\x22' :: rest => (basic rest).map fun (text, after) => (String.ofList text, after)
  | '\x27' :: rest => (literal rest).map fun (text, after) => (String.ofList text, after)
  | _ =>
      let name := source.takeWhile isKeyChar
      if name.isEmpty then none else some (String.ofList name, source.drop name.length)

/-- How many parts a key has at most, and how deep values are nested at most. -/
def depthLimit : Nat := 79

/-- Reads a key of at most so many parts, with blanks around the parts. -/
def key? : Nat → List Char → Option (List String × List Char)
  | 0, _ => none
  | parts + 1, source =>
      match keyPart? (skipBlanks source) with
      | none => none
      | some (part, rest) =>
          match skipBlanks rest with
          | '.' :: more => (key? parts more).map fun (path, after) => (part :: path, after)
          | after => some ([part], after)

/-- The value of an entry in a table, if it has one. -/
def lookup (entries : List (String × Value)) (key : String) : Option Value :=
  (entries.find? (·.1 = key)).map (·.2)

/-- Gives a key of a table a value. -/
def assign (entries : List (String × Value)) (key : String) (value : Value) :
    List (String × Value) :=
  match entries with
  | [] => [(key, value)]
  | (other, old) :: rest =>
      if other = key then (key, value) :: rest else (other, old) :: assign rest key value

/-- A table while it grows. -/
abbrev Growing := TableKind × List (String × Value)

/-- Changes the table that a path leads to.  Tables on the way that are not there are made, by
a dotted key or implied by a header.  A dotted key leads neither into a table with a header
nor, like a header, into a value. -/
def descend (byKey : Bool) (change : Growing → Option Growing) :
    List String → Growing → Option Growing
  | [], table => change table
  | key :: path, (kind, entries) =>
      match lookup entries key with
      | none =>
          (descend byKey change path (if byKey then .dotted else .implied, [])).map fun inner =>
            (kind, assign entries key (.table inner.1 inner.2))
      | some (.table innerKind innerEntries) =>
          if innerKind = .inline ∨ (byKey ∧ innerKind = .header) then none
          else
            (descend byKey change path (innerKind, innerEntries)).map fun inner =>
              (kind, assign entries key (.table inner.1 inner.2))
      | some (.tables items) =>
          match items.getLast? with
          | some (.table innerKind innerEntries) =>
              (descend byKey change path (innerKind, innerEntries)).map fun inner =>
                (kind, assign entries key
                  (.tables (items.dropLast ++ [.table inner.1 inner.2])))
          | _ => none
      | some _ => none

/-- Adds an entry to a table.  A key comes once, and a dotted key goes into a table made by
dotted keys. -/
def addEntry (path : List String) (key : String) (value : Value) (table : Growing) :
    Option Growing :=
  descend true (fun (kind, entries) =>
    if (path.isEmpty : Bool) = decide (kind = .dotted) then none
    else if (lookup entries key).isSome then none
    else some (kind, entries ++ [(key, value)])) path table

/-- Reads a key and the equals sign, and gives the tables on the way and the last part. -/
def keyAndEquals? (source : List Char) : Option (List String × String × List Char) :=
  match key? depthLimit source with
  | some (path, '=' :: rest) =>
      match path.getLast? with
      | some key => some (path.dropLast, key, skipBlanks rest)
      | none => none
  | _ => none

mutual

/-- Reads a value nested up to a depth. -/
def value? (fuel depth : Nat) (source : List Char) : Option (Value × List Char) :=
  match fuel, depth, source with
  | fuel + 1, depth + 1, '[' :: rest =>
      match skipSpace rest.length rest with
      | some (']' :: after) => some (.array [], after)
      | some inside =>
          (items? fuel depth inside).map fun (items, after) => (.array items, after)
      | none => none
  | fuel + 1, depth + 1, '\x7b' :: rest =>
      match skipBlanks rest with
      | '\x7d' :: after => some (.table .inline [], after)
      | inside =>
          (entries? fuel depth (.inline, []) inside).map fun (entries, after) =>
            (.table .inline entries, after)
  | _, _, '\x22' :: _ | _, _, '\x27' :: _ =>
      (string? source).map fun (text, after) => (.string (String.ofList text), after)
  | _, _, _ => readScalar source

/-- Reads the items of an array up to its bracket.  The last may have a comma after it. -/
def items? (fuel depth : Nat) (source : List Char) : Option (List Value × List Char) :=
  match fuel with
  | 0 => none
  | fuel + 1 =>
      match value? fuel depth source with
      | none => none
      | some (item, rest) =>
          match skipSpace rest.length rest with
          | some (']' :: after) => some ([item], after)
          | some (',' :: more) =>
              match skipSpace more.length more with
              | some (']' :: after) => some ([item], after)
              | some inside =>
                  (items? fuel depth inside).map fun (items, after) => (item :: items, after)
              | none => none
          | _ => none

/-- Reads the entries of a table in braces up to its brace. -/
def entries? (fuel depth : Nat) (table : Growing) (source : List Char) :
    Option (List (String × Value) × List Char) :=
  match fuel with
  | 0 => none
  | fuel + 1 =>
      match keyAndEquals? source with
      | none => none
      | some (path, key, afterKey) =>
          match value? fuel depth afterKey with
          | none => none
          | some (value, rest) =>
              match addEntry path key value table with
              | none => none
              | some grown =>
                  match skipBlanks rest with
                  | '\x7d' :: after => some (grown.2, after)
                  | ',' :: more => entries? fuel depth grown (skipBlanks more)
                  | _ => none

end

/-- Reads a statement without what follows it on its line. -/
def statement? (source : List Char) : Option (Statement × List Char) :=
  match source with
  | '[' :: '[' :: rest =>
      match key? depthLimit rest with
      | some (path, ']' :: ']' :: after) => some (.nextHeader path, after)
      | _ => none
  | '[' :: rest =>
      match key? depthLimit rest with
      | some (path, ']' :: after) => some (.header path, after)
      | _ => none
  | _ =>
      match keyAndEquals? source with
      | none => none
      | some (path, key, afterKey) =>
          (value? (2 * afterKey.length + 1) depthLimit afterKey).map fun (value, after) =>
            (.entry path key value, after)

/-- Reads statements up to the end.  Each takes at least one character, and so does a line
without one. -/
def statements? (fuel : Nat) (source : List Char) : Option (List Statement) :=
  match fuel, skipBlanks source with
  | _, [] => some []
  | 0, _ => none
  | less + 1, '\n' :: rest => statements? less rest
  | less + 1, '\r' :: '\n' :: rest => statements? less rest
  | less + 1, '#' :: rest =>
      match lineEnd? ('#' :: rest) with
      | some after => statements? less after
      | none => none
  | less + 1, line =>
      match statement? line with
      | none => none
      | some (statement, rest) =>
          match lineEnd? rest with
          | some after => (statements? less after).map (statement :: ·)
          | none => none

end DocsConsole.Toml
