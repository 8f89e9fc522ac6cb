import DocsConsole.Html.Escape

/-!
# Fragments of markup

A fragment is a sequence of markup and text.  Only text is escaped, so the
markup of a fragment never comes from its text.
-/

namespace DocsConsole.Html

inductive Piece where
  /-- Markup, written as it is. -/
  | markup (source : String)
  /-- Text, written escaped. -/
  | text (content : String)
deriving DecidableEq, Repr, Inhabited

def Piece.write : Piece → String
  | .markup source => source
  | .text content => escape content

/-- A sequence of markup and text. -/
abbrev Fragment := List Piece

def Fragment.write (fragment : Fragment) : String :=
  String.join (fragment.map Piece.write)

/-- Source code as preformatted text. -/
def ofCode (code : String) : Fragment :=
  [.markup "<pre><code>", .text code, .markup "</code></pre>\n"]

end DocsConsole.Html
