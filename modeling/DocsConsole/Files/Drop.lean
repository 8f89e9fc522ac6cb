import DocsConsole.Unicode.Space
import DocsConsole.Web.FileAddress

/-!
# Dropped text

Files that are dropped onto a terminal arrive as text: their paths, separated by
white space, and quoted where a path holds white space itself.  Quotes of either
kind hold everything up to the next quote of the same kind, and a backslash
outside quotes takes the next character as it is.
-/

namespace DocsConsole.Drop

/-- Where the reader stands. -/
inductive Place where
  /-- Between two words. -/
  | between
  /-- In a word, outside quotes. -/
  | word
  /-- In quotes. -/
  | quotes (mark : Char)
deriving DecidableEq, Repr

/-- The words of a dropped text, given where the reader stands and what it has read of the
current word, in reverse. -/
def wordsFrom (place : Place) (current : List Char) : List Char → List (List Char)
  | [] =>
      match place with
      | .between => []
      | _ => [current.reverse]
  | c :: rest =>
      match place with
      | .quotes mark =>
          if c = mark then wordsFrom .word current rest
          else wordsFrom place (c :: current) rest
      | _ =>
          if c = '\x27' ∨ c = '\x22' then wordsFrom (.quotes c) current rest
          else if c = '\\' then
            match rest with
            | next :: more => wordsFrom .word (next :: current) more
            | [] => [current.reverse]
          else if Unicode.isSpace c then
            match place with
            | .between => wordsFrom .between [] rest
            | _ => current.reverse :: wordsFrom .between [] rest
          else wordsFrom .word (c :: current) rest

def words (text : String) : List String :=
  (wordsFrom .between [] text.toList).map String.ofList

/-- The path that a word stands for: the address of a file, or a path that may begin at the
home directory. -/
def pathOf (home : String) (word : String) : FilePath :=
  if "file://".isPrefixOf word then
    (Web.filePath? word).getD (FilePath.expandHome home word)
  else FilePath.expandHome home word

/-- The paths in a dropped text.  Empty words stand for nothing. -/
def paths (home : String) (text : String) : List FilePath :=
  ((words text).filter (· ≠ "")).map (pathOf home)

end DocsConsole.Drop
