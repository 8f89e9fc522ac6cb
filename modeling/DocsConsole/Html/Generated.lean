import DocsConsole.Html.Document
import DocsConsole.Html.Fragment
import DocsConsole.Markdown.Inline
import DocsConsole.Purpose

/-!
# Generated content as markup
-/

namespace DocsConsole.Html

/-- The markup of generated content: a description is a Markdown document, and commented
source is code. -/
def ofGenerated (content : String) : Purpose → String
  | .readme => ofEvents (Markdown.events content)
  | .inlineComments => (ofCode content).write

end DocsConsole.Html
