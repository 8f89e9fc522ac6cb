/-!
# What to generate
-/

namespace DocsConsole

/-- The kind of document to generate. -/
inductive Purpose where
  /-- A description of the whole project. -/
  | readme
  /-- The given source with comments added. -/
  | inlineComments
deriving DecidableEq, Repr, Inhabited

namespace Purpose

/-- The value sent to the backend. -/
def name : Purpose → String
  | .readme => "readme"
  | .inlineComments => "inline_comments"

def ofName? (name : String) : Option Purpose :=
  if name = "readme" then some .readme
  else if name = "inline_comments" then some .inlineComments
  else none

/-- The name shown to the user. -/
def label : Purpose → String
  | .readme => "README"
  | .inlineComments => "Inline comments"

def toggled : Purpose → Purpose
  | .readme => .inlineComments
  | .inlineComments => .readme

/-- The name of the file that generated content is saved in. -/
def fileName : Purpose → String
  | .readme => "README.md"
  | .inlineComments => "commented_code.txt"

/-- The name, without its extension, of the file that a preview is saved in. -/
def previewStem : Purpose → String
  | .readme => "README"
  | .inlineComments => "commented_code"

theorem ofName?_name (purpose : Purpose) : ofName? purpose.name = some purpose := by
  cases purpose <;> simp [name, ofName?]

end Purpose

end DocsConsole
