/-!
# Styles

A style says how text is drawn.  Each colour may be left open, and then the
cell under the text keeps its own.
-/

namespace DocsConsole.Terminal

inductive Color where
  /-- The terminal's own colour. -/
  | terminal
  | rgb (red green blue : Nat)
deriving DecidableEq, Repr, Inhabited

/-- How text is drawn. -/
structure Style where
  foreground : Option Color
  background : Option Color
  bold : Bool
  italic : Bool
  underlined : Bool
deriving DecidableEq, Repr, Inhabited

namespace Style

/-- The style that changes nothing. -/
def plain : Style :=
  ⟨none, none, false, false, false⟩

def colored (color : Color) : Style :=
  { plain with foreground := some color }

/-- The style on a ground of a colour. -/
def on (style : Style) (color : Color) : Style :=
  { style with background := some color }

def asBold (style : Style) : Style :=
  { style with bold := true }

/-- A style drawn over another one: it decides what it does not leave open, and adds its
effects. -/
def atop (style under : Style) : Style :=
  ⟨style.foreground.or under.foreground, style.background.or under.background,
    style.bold || under.bold, style.italic || under.italic,
    style.underlined || under.underlined⟩

@[simp] theorem atop_plain (style : Style) : style.atop plain = style := by
  cases style
  simp [plain, atop]

end Style

/-- A text in one style. -/
structure Span where
  text : String
  style : Style
deriving DecidableEq, Repr, Inhabited

/-- A line of text in several styles. -/
abbrev Line := List Span

/-- A line in one style. -/
def Line.styled (style : Style) (text : String) : Line :=
  [⟨text, style⟩]

end DocsConsole.Terminal
