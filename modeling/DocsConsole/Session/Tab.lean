/-!
# Tabs
-/

namespace DocsConsole

/-- The three tabs of the console, from left to right. -/
inductive Tab where
  | documentation
  | github
  | quality
deriving DecidableEq, Repr, Inhabited

namespace Tab

def all : List Tab := [.documentation, .github, .quality]

/-- The text on a tab. -/
def label : Tab → String
  | .documentation => "1.Docs"
  | .github => "2.GitHub"
  | .quality => "3.Quality"

/-- The place of a tab, counted from the left. -/
def index : Tab → Nat
  | .documentation => 0
  | .github => 1
  | .quality => 2

/-- The tab to the right. -/
def next? : Tab → Option Tab
  | .documentation => some .github
  | .github => some .quality
  | .quality => none

/-- The tab to the left. -/
def previous? : Tab → Option Tab
  | .documentation => none
  | .github => some .documentation
  | .quality => some .github

theorem previous?_eq_some_iff (left right : Tab) :
    right.previous? = some left ↔ left.next? = some right := by
  cases left <;> cases right <;> simp [next?, previous?]

end Tab

end DocsConsole
