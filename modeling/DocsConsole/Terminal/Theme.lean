import DocsConsole.Terminal.Style

/-!
# The colour scheme
-/

namespace DocsConsole.Terminal.Theme

/-- Body text. -/
def foreground : Color := .rgb 200 200 200

/-- What is least important. -/
def dimColor : Color := .rgb 100 100 100

/-- What is less important than body text. -/
def mutedColor : Color := .rgb 140 140 140

/-- What is active or chosen. -/
def accent : Color := .rgb 110 170 255

def codeColor : Color := .rgb 180 130 240

/-- What went well. -/
def successColor : Color := .rgb 80 200 120

/-- What needs care. -/
def warningColor : Color := .rgb 230 180 80

/-- What went wrong. -/
def errorColor : Color := .rgb 240 80 80

/-- Lines between fields. -/
def borderColor : Color := .rgb 60 60 60

/-- The ground of a highlighted row. -/
def selectionGround : Color := .rgb 40 40 60

/-- The ground of code. -/
def codeGround : Color := .rgb 30 30 38

/-- The titles of panels and the largest headings. -/
def title : Style := (Style.colored accent).asBold

/-- Headings within a text. -/
def header : Style := (Style.colored foreground).asBold

/-- What is chosen. -/
def selected : Style := (Style.colored accent).asBold

/-- Body text. -/
def normal : Style := Style.colored foreground

/-- Hints and placeholders. -/
def dim : Style := Style.colored dimColor

/-- Labels and quotes. -/
def muted : Style := Style.colored mutedColor

/-- The frame of a field without the focus. -/
def border : Style := Style.colored borderColor

/-- The frame of a field with the focus. -/
def focusedBorder : Style := Style.colored accent

/-- Keys, and the titles of fields with the focus. -/
def keyHint : Style := Style.colored accent

/-- The row of a list that the cursor is on. -/
def selection : Style := Style.plain.on selectionGround

/-- Code on its own ground. -/
def code : Style := (Style.colored codeColor).on codeGround

/-- The tab on screen. -/
def activeTab : Style := { (Style.colored accent).asBold with underlined := true }

/-- The other tabs. -/
def inactiveTab : Style := dim

/-- What went well. -/
def success : Style := Style.colored successColor

/-- The character under the text cursor. -/
def cursor : Style := (Style.colored .terminal).on accent

/-- A highlighted path suggestion. -/
def highlight : Style := cursor.asBold

/-- A directory among path suggestions. -/
def directory : Style := Style.colored accent

end DocsConsole.Terminal.Theme
