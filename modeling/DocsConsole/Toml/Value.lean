/-!
# TOML values

A document is a table.  A table remembers how it came to be, because that
decides whether it may still grow.
-/

namespace DocsConsole.Toml

/-- How a table came to be. -/
inductive TableKind where
  /-- By a header of its own, or as the document. -/
  | header
  /-- By a header of a table inside it. -/
  | implied
  /-- By a dotted key. -/
  | dotted
  /-- In braces; such a table is complete. -/
  | inline
deriving DecidableEq, Repr

/-- A value.  Of numbers with a fraction only the form is kept, and of dates and times. -/
inductive Value where
  | string (text : String)
  | integer (value : Int)
  | boolean (value : Bool)
  | float
  | date
  | array (items : List Value)
  | table (kind : TableKind) (entries : List (String × Value))
  /-- Tables that share a header in double brackets. -/
  | tables (items : List Value)
deriving Repr, Inhabited

end DocsConsole.Toml
