import DocsConsole.Console.DocsPanel
import DocsConsole.Preview.Blocks
import DocsConsole.Screen.Field
import DocsConsole.Terminal.Stack

/-!
# The panel for documentation on screen
-/

namespace DocsConsole.Screen.Docs

open Terminal

/-- The heights of the parts of the left column, from the list of files to the hints. -/
def extents (panel : DocsPanel) (session : Session) : List Extent :=
  [.elastic 5, .fixed 3, .fixed panel.path.suggestionRows,
    .fixed (if session.purpose = .readme then 3 else 0), .fixed 6, .fixed 1]

def fileRow (highlighted : Bool) (file : UploadedFile) : ListRow :=
  ⟨[⟨" " ++ file.name ++ " ", Theme.normal⟩,
      ⟨"(" ++ sizeLabel file.size ++ ")", Theme.dim⟩],
    if highlighted then Theme.selection else .plain⟩

def drawFiles (panel : DocsPanel) (session : Session) (area : Area) : Drawing :=
  let focused := panel.focus = .files
  let files := session.uploads
  let frame := (frameOf (" Files (" ++ toString files.length ++ ") ") focused).draw area
  let inside := Frame.inside area
  if files.isEmpty then
    frame ++
      drawHint "No files yet. Add paths below or drop files onto the terminal." Theme.dim inside
  else
    frame ++
      ListRow.draw
        (files.mapIdx fun place file =>
          fileRow (focused && place = panel.fileCursor) file)
        inside

def twoDigits (number : Nat) : String :=
  if number < 10 then "0" ++ toString number else toString number

/-- A time of day as it is shown. -/
def clockText (time : TimeOfDay) : String :=
  twoDigits time.hour ++ ":" ++ twoDigits time.minute ++ ":" ++ twoDigits time.second

def outputTitle : Option GeneratedDocument → String
  | some document =>
      " Output: " ++ document.purpose.fileName ++ " (" ++ clockText document.generatedAt ++ ") "
  | none => " Output "

/-- Draws the generated content. -/
def drawOutput (panel : DocsPanel) (session : Session) (area : Area) : Drawing :=
  let frame := (frameOf (outputTitle session.generated) (panel.focus = .output)).draw area
  let inside := Frame.inside area
  match session.generated with
  | some document =>
      frame ++
        Paragraph.draw
          ⟨Preview.generatedLines document.content document.purpose, .keepBlanks,
            panel.outputScrolled⟩
          inside
  | none =>
      frame ++
        drawHint "Generated documentation will appear here. Press g to generate." Theme.dim inside

/-- A purpose in the line of hints. -/
def purposeSpan (current purpose : Purpose) : Span :=
  if purpose = current then ⟨"[" ++ purpose.label ++ "]", Theme.selected⟩
  else ⟨" " ++ purpose.label ++ " ", Theme.dim⟩

/-- The keys that count. -/
def keyHints (editing : Bool) : List KeyHint :=
  if editing then [⟨"Esc", "done"⟩, ⟨"Tab", "next"⟩, ⟨"Ctrl+S", "submit"⟩]
  else
    [⟨"e", "edit"⟩, ⟨"p", "purpose"⟩, ⟨"g", "generate"⟩, ⟨"s", "save"⟩, ⟨"x", "export"⟩]

def hintLine (panel : DocsPanel) (session : Session) : Line :=
  [⟨" Purpose ", Theme.muted⟩, purposeSpan session.purpose .readme, ⟨" ", .plain⟩,
      purposeSpan session.purpose .inlineComments, ⟨"   ", Theme.dim⟩] ++
    (keyHints panel.editing).flatMap KeyHint.spans

/-- Draws the name of the project, which only a description needs. -/
def drawProjectName (panel : DocsPanel) (session : Session) (area : Area) : Drawing :=
  if session.purpose = .readme then
    drawField panel.projectName (panel.editing && panel.focus = .projectName) " Project name "
      "required for README" area
  else []

def drawColumn (panel : DocsPanel) (session : Session) : List Area → Drawing
  | [files, path, suggestions, projectName, instructions, hints] =>
      drawFiles panel session files ++
        drawPath panel.path (panel.editing && panel.focus = .path) " Add files " path ++
        (if panel.focus = .path then drawSuggestions panel.path suggestions else []) ++
        drawProjectName panel session projectName ++
        drawField panel.instructions (panel.editing && panel.focus = .instructions)
          " Custom instructions " "optional" instructions ++
        drawLine (hintLine panel session) hints
  | _ => []

def draw (panel : DocsPanel) (session : Session) (area : Area) : Drawing :=
  let (left, right) := area.splitAt (area.share 45)
  drawColumn panel session (left.stack (Stack.heights area.height (extents panel session))) ++
    drawOutput panel session right

end DocsConsole.Screen.Docs
