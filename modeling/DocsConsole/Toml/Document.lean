import DocsConsole.Toml.Statement

/-!
# TOML documents

The statements of a document build its table one after another.  A header
switches to its table; a table gets a header once, and a key comes once in its
table.
-/

namespace DocsConsole.Toml

/-- A document while it is built: the whole table and the path of the current header. -/
structure Building where
  root : Growing
  current : List String

def Building.empty : Building :=
  ⟨(.header, []), []⟩

/-- Gives a table its header. -/
def openTable (key : String) (parent : Growing) : Option Growing :=
  match lookup parent.2 key with
  | none => some (parent.1, parent.2 ++ [(key, .table .header [])])
  | some (.table .implied entries) =>
      some (parent.1, assign parent.2 key (.table .header entries))
  | some _ => none

/-- Adds one more table to those that share a header. -/
def openNextTable (key : String) (parent : Growing) : Option Growing :=
  match lookup parent.2 key with
  | none => some (parent.1, parent.2 ++ [(key, .tables [.table .header []])])
  | some (.tables items) =>
      some (parent.1, assign parent.2 key (.tables (items ++ [.table .header []])))
  | some _ => none

/-- Follows a header: to the table that its path leads to but for the last key. -/
def Building.switch (building : Building) (path : List String)
    (opening : String → Growing → Option Growing) : Option Building :=
  match path.getLast? with
  | none => none
  | some key =>
      (descend false (opening key) path.dropLast building.root).map fun root => ⟨root, path⟩

/-- Adds a statement to a document. -/
def Building.add (building : Building) : Statement → Option Building
  | .header path => building.switch path openTable
  | .nextHeader path => building.switch path openNextTable
  | .entry path key value =>
      (descend false (addEntry path key value) building.current building.root).map fun root =>
        { building with root := root }

/-- A text without a byte order mark. -/
def withoutMark : List Char → List Char
  | '\ufeff' :: rest => rest
  | text => text

/-- Reads a document, and gives its entries. -/
def read? (text : String) : Option (List (String × Value)) :=
  let source := withoutMark text.toList
  match statements? (source.length + 1) source with
  | none => none
  | some statements => (statements.foldlM Building.add Building.empty).map (·.root.2)

end DocsConsole.Toml
