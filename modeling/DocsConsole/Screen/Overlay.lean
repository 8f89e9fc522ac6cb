import DocsConsole.Console.Dispatch
import DocsConsole.Screen.Field

/-!
# Overlays

Help and the loading sign are drawn over the panel, in the middle of the screen.
-/

namespace DocsConsole.Screen

open Terminal

/-! ## The loading sign -/

/-- What is said about the calls in flight. -/
def loadingText (loading : Loading) : String :=
  let label := loading.currentLabel?.getD "Working"
  if loading.count ≤ 1 then label ++ "..."
  else label ++ "... (+" ++ toString (loading.count - 1) ++ " more)"

/-- Draws the loading sign while a call is in flight. -/
def drawLoading (loading : Loading) (spinner : Nat) (area : Area) : Drawing :=
  if loading.isActive then
    let text := loadingText loading
    let dialog := area.centered (text.length + 8) 3
    .erase dialog :: (Frame.untitled Theme.focusedBorder).draw dialog ++
      drawLine
        [⟨" " ++ (spinnerFrames[spinner]?).getD "" ++ " ", Theme.keyHint⟩,
          ⟨text, Theme.normal⟩]
        (Frame.inside dialog)
  else []

/-! ## Help -/

def keyLine (key description : String) : Line :=
  [⟨"  " ++ Text.padEnd 22 key, Theme.selected⟩, ⟨description, Theme.normal⟩]

def helpHeading (text : String) : Line :=
  Line.styled Theme.header ("── " ++ text ++ " ──")

def helpLines : List Line :=
  [[], keyLine "q / Ctrl+C" "Quit", keyLine "?" "Toggle this help",
    keyLine "1 / 2 / 3" "Docs, GitHub, Quality tab",
    keyLine "Left / Right" "Previous / next tab",
    keyLine "Tab / Shift+Tab" "Next / previous field",
    keyLine "Up / Down / j / k" "Move or scroll", keyLine "Enter" "Choose / edit field",
    keyLine "e" "Edit the focused field", keyLine "Esc" "Stop editing",
    keyLine "Ctrl+S" "Submit while editing",
    keyLine "paste / drop" "Add files to the current tab", [], helpHeading "Docs",
    keyLine "p" "Toggle README / inline comments", keyLine "g" "Generate documentation",
    keyLine "s" "Save generated file", keyLine "x" "Export HTML preview",
    keyLine "d" "Remove highlighted file", helpHeading "GitHub", keyLine "D" "Disconnect",
    helpHeading "Quality", keyLine "a" "Analyze selected file",
    keyLine "x" "Export report as HTML"]

def drawHelp (area : Area) : Drawing :=
  let dialog := area.centered 60 26
  .erase dialog :: (⟨" Help: keybindings ", Theme.title, Theme.focusedBorder⟩ : Frame).draw dialog ++
    (Paragraph.ofLines helpLines).draw (Frame.inside dialog)

end DocsConsole.Screen
