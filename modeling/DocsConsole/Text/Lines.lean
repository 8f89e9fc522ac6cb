/-!
# Lines of a text

A line feed ends a line, together with a carriage return right before it.  A
text that ends with a line feed has no further, empty line.
-/

namespace DocsConsole.Text

/-- The characters of a line without the carriage return before its line feed. -/
def withoutReturn (line : List Char) : List Char :=
  if line.getLast? = some '\r' then line.dropLast else line

/-- The lines of a text whose current line has been read so far, in reverse. -/
def linesFrom (line : List Char) : List Char → List (List Char)
  | [] => if line.isEmpty then [] else [line.reverse]
  | '\n' :: rest => withoutReturn line.reverse :: linesFrom [] rest
  | c :: rest => linesFrom (c :: line) rest

def lines (text : String) : List String :=
  (linesFrom [] text.toList).map String.ofList

/-- The pieces of a text between its line feeds, empty ones included. -/
def splitAtFeeds : List Char → List (List Char)
  | [] => [[]]
  | '\n' :: rest => [] :: splitAtFeeds rest
  | c :: rest =>
      match splitAtFeeds rest with
      | [] => [[c]]
      | piece :: pieces => (c :: piece) :: pieces

theorem splitAtFeeds_ne_nil (text : List Char) : splitAtFeeds text ≠ [] := by
  fun_cases splitAtFeeds text <;> simp

/-- The pieces with a line feed after each of them are the text with one more line feed. -/
theorem flatMap_splitAtFeeds (text : List Char) :
    (splitAtFeeds text).flatMap (· ++ ['\n']) = text ++ ['\n'] := by
  fun_induction splitAtFeeds text with
  | case1 => rfl
  | case2 rest induction => simp [induction]
  | case3 c rest _ nothing _ => exact (splitAtFeeds_ne_nil rest nothing).elim
  | case4 c rest _ piece pieces divided induction =>
      rw [divided] at induction
      simpa using induction

def repeated (count : Nat) (text : String) : String :=
  String.join (List.replicate count text)

/-- The text filled up with spaces to a number of characters. -/
def padEnd (width : Nat) (text : String) : String :=
  text ++ repeated (width - text.length) " "

end DocsConsole.Text
