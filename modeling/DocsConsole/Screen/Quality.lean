import DocsConsole.Console.QualityPanel
import DocsConsole.Preview.Report
import DocsConsole.Screen.Field
import DocsConsole.Terminal.Stack

/-!
# The panel for code quality on screen
-/

namespace DocsConsole.Screen.Quality

open Terminal

/-- The line on the picked file. -/
def selectionLine : Option UploadedFile → Line
  | some file =>
      [⟨" Selected: ", Theme.muted⟩, ⟨file.name, Theme.selected⟩,
        ⟨" (" ++ sizeLabel file.size ++ ")", Theme.dim⟩, ⟨"   a", Theme.keyHint⟩,
        ⟨" analyze  ", Theme.dim⟩, ⟨"d", Theme.keyHint⟩, ⟨" remove", Theme.dim⟩]
  | none =>
      Line.styled Theme.dim " No file selected. Type a path above or drop a file."

def reportParagraph (panel : QualityPanel) : Option QualityReport → Paragraph
  | some report => ⟨Preview.reportLines report, .keepBlanks, panel.reportScrolled⟩
  | none => .ofLines [Line.styled Theme.dim "Analysis results will appear here."]

def drawReport (panel : QualityPanel) (session : Session) (area : Area) : Drawing :=
  (frameOf " Report " (panel.focus = .report)).draw area ++
    (reportParagraph panel session.report).draw (Frame.inside area)

/-- The heights of the parts of the panel. -/
def extents (panel : QualityPanel) : List Extent :=
  [.fixed 3, .fixed panel.path.suggestionRows, .fixed 1, .elastic 5]

def draw (panel : QualityPanel) (session : Session) (area : Area) : Drawing :=
  match area.stack (Stack.heights area.height (extents panel)) with
  | [path, suggestions, selection, report] =>
      drawPath panel.path panel.wantsInput " File to analyze " path ++
        drawSuggestions panel.path suggestions ++
        drawLine (selectionLine session.qualityFile) selection ++ drawReport panel session report
  | _ => []

end DocsConsole.Screen.Quality
