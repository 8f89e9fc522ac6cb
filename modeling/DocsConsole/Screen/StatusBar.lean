import DocsConsole.Console.StatusBar
import DocsConsole.Screen.Field
import DocsConsole.Session.Tab

/-!
# The status bar on screen

The bar shows the tab on the left and keys on the right.  A notification stands
between them and is cut short if there is not enough room.
-/

namespace DocsConsole.Screen.StatusBar

open Terminal

/-- The keys that always count. -/
def hints : String := "q·?·1-3·Tab·e"

/-- The room that is kept for the keys. -/
def hintRoom : Nat := hints.utf8ByteSize + 1

/-- The room that is kept for the tab. -/
def badgeRoom (tab : Tab) : Nat := tab.label.utf8ByteSize + 2

/-- A message cut to a number of characters, with dots at the end. -/
def shortened (message : String) (room : Nat) : String :=
  if message.length ≤ room then message
  else if 3 < room then String.ofList (message.toList.take (room - 3)) ++ "..."
  else ""

def toastStyle : ToastKind → Style
  | .info => Style.colored Theme.accent
  | .success => Style.colored Theme.successColor
  | .error => Style.colored Theme.errorColor

def messageSpan (tab : Tab) (toast : Option Toast) (width : Nat) : Span :=
  match toast with
  | some toast =>
      ⟨shortened toast.message (width - badgeRoom tab - hintRoom - 4), toastStyle toast.kind⟩
  | none => ⟨"", Theme.dim⟩

def line (tab : Tab) (toast : Option Toast) (width : Nat) : Line :=
  let message := messageSpan tab toast width
  let filler := width - (badgeRoom tab + 2 + message.text.length + hintRoom)
  [⟨" " ++ tab.label ++ " ", Theme.muted⟩, ⟨"  ", Theme.dim⟩, message,
    ⟨Text.repeated filler " ", .plain⟩, ⟨hints, Theme.keyHint⟩, ⟨" ", .plain⟩]

def draw (bar : DocsConsole.StatusBar) (tab : Tab) (area : Area) : Drawing :=
  drawLine (line tab bar.toast area.width) area

end DocsConsole.Screen.StatusBar
