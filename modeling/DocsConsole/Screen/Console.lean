import DocsConsole.Screen.Docs
import DocsConsole.Screen.Github
import DocsConsole.Screen.Overlay
import DocsConsole.Screen.Quality
import DocsConsole.Screen.StatusBar

/-!
# The whole screen

Tabs stand at the top and the status bar at the bottom.  The panel of the current
tab is drawn between them, and overlays are drawn last.
-/

namespace DocsConsole.Screen

open Terminal

def tabSpans (current tab : Tab) : Line :=
  [⟨" ", .plain⟩, ⟨tab.label, if tab = current then Theme.activeTab else Theme.inactiveTab⟩,
    ⟨" ", .plain⟩]

/-- What stands between two tabs. -/
def divider : Line := Line.styled Theme.dim " | "

def tabLine (current : Tab) : Line :=
  divider.intercalate (Tab.all.map (tabSpans current))

/-- Draws the panel of the current tab. -/
def drawPanel (console : Console) (area : Area) : Drawing :=
  match console.session.tab with
  | .documentation => Docs.draw console.docs console.session area
  | .github => Github.draw console.github console.session area
  | .quality => Quality.draw console.quality console.session area

def draw (console : Console) (area : Area) : Drawing :=
  match area.stack (Stack.heights area.height [.fixed 2, .elastic 10, .fixed 1]) with
  | [tabs, panel, status] =>
      (tabLine console.session.tab).draw tabs ++ drawPanel console panel ++
        StatusBar.draw console.statusBar console.session.tab status ++
        drawLoading console.session.loading console.spinner area ++
        (if console.helpOpen then drawHelp area else [])
  | _ => []

end DocsConsole.Screen
