import DocsConsole.CoreInstances
import DocsConsole.Text.Bytes
import DocsConsole.Text.Lines
import DocsConsole.Unicode.Space

/-!
# Text fields

A text field holds a text and a cursor, which is the number of bytes before it.
Every edit is made at the cursor: the text is parted there, what stands before it
changes, and what stands after it stays.
-/

namespace DocsConsole

open scoped CoreInstances

/-- What a text field is for. -/
inductive FieldKind where
  /-- One line. -/
  | single
  /-- Any number of lines. -/
  | multi
  /-- One line that is not shown. -/
  | masked
deriving DecidableEq, Repr, Inhabited

/-- A change to the text of a field. -/
inductive Edit where
  | character (c : Char)
  | newline
  | eraseCharacter
  | eraseWord
  | paste (text : String)
deriving DecidableEq, Repr, Inhabited

structure TextField where
  kind : FieldKind
  content : List Char
  /-- The number of bytes before the cursor. -/
  cursor : Nat
deriving DecidableEq, Repr, Inhabited

namespace TextField

def empty (kind : FieldKind) : TextField :=
  ⟨kind, [], 0⟩

def value (field : TextField) : String :=
  String.ofList field.content

def isEmpty (field : TextField) : Bool :=
  field.content.isEmpty

/-- The text before the cursor. -/
def before (field : TextField) : List Char :=
  Text.takeBytes field.cursor field.content

/-- The text after the cursor. -/
def after (field : TextField) : List Char :=
  Text.dropBytes field.cursor field.content

@[simp] theorem before_append_after (field : TextField) :
    field.before ++ field.after = field.content :=
  Text.takeBytes_append_dropBytes _ _

/-- The field with another text before the cursor. -/
def withBefore (field : TextField) (before : List Char) : TextField :=
  { field with content := before ++ field.after, cursor := Text.byteCount before }

/-- The field with another text and the cursor at its end. -/
def setValue (field : TextField) (value : String) : TextField :=
  { field with content := value.toList, cursor := Text.byteCount value.toList }

def clear (field : TextField) : TextField :=
  { field with content := [], cursor := 0 }

/-! ## Edits -/

/-- Puts a text at the cursor. -/
def insert (field : TextField) (text : List Char) : TextField :=
  field.withBefore (field.before ++ text)

/-- Types a character.  A line end counts in a field of several lines only. -/
def typeCharacter (field : TextField) (c : Char) : TextField :=
  if c = '\n' ∧ field.kind ≠ .multi then field else field.insert [c]

/-- What a field takes of a pasted text: a field of one line takes the first line. -/
def pasted (kind : FieldKind) (text : String) : List Char :=
  match kind with
  | .multi => text.toList
  | _ => ((Text.linesFrom [] text.toList).head?).getD []

/-- Takes the character before the cursor away. -/
def eraseCharacter (field : TextField) : TextField :=
  field.withBefore field.before.dropLast

/-- A text without its last word and the spaces after it. -/
def withoutWord (text : List Char) : List Char :=
  Unicode.dropEndWhile (fun c => c ≠ ' ' && c ≠ '\n') (Unicode.dropEndWhile (· = ' ') text)

/-- Takes the word before the cursor away, with the spaces after it. -/
def eraseWord (field : TextField) : TextField :=
  field.withBefore (withoutWord field.before)

/-- Makes a change, unless the field has no use for it. -/
def edit? (field : TextField) : Edit → Option TextField
  | .character c => some (field.typeCharacter c)
  | .newline => if field.kind = .multi then some (field.insert ['\n']) else none
  | .eraseCharacter => some field.eraseCharacter
  | .eraseWord => some field.eraseWord
  | .paste text => some (field.insert (pasted field.kind text))

/-- Makes a change that the field has use for. -/
def edit (field : TextField) (edit : Edit) : TextField :=
  (field.edit? edit).getD field

/-! ## Moving between lines -/

/-- The number of bytes of some lines, each with its line end. -/
def bytesOfLines (lines : List (List Char)) : Nat :=
  (lines.map fun line => Text.byteCount line + 1).sum

/-- Moves the cursor to the line above.  It keeps its distance from the beginning of the line,
as far as that line goes and without dividing a character. -/
def up? (field : TextField) : Option TextField :=
  match field.kind, (Text.splitAtFeeds field.before).reverse with
  | .multi, current :: above :: earlier =>
      some { field with
        cursor :=
          bytesOfLines earlier + Text.byteCount (Text.takeBytes (Text.byteCount current) above) }
  | _, _ => none

/-- Moves the cursor to the line below, in the same way. -/
def down? (field : TextField) : Option TextField :=
  match field.kind, (Text.splitAtFeeds field.before).getLast?, Text.splitAtFeeds field.after with
  | .multi, some current, rest :: below :: _ =>
      some { field with
        cursor :=
          Text.byteCount field.before + Text.byteCount rest + 1 +
            Text.byteCount (Text.takeBytes (Text.byteCount current) below) }
  | _, _, _ => none

/-- Moves the cursor to the line above, if there is one. -/
def up (field : TextField) : TextField :=
  field.up?.getD field

/-- Moves the cursor to the line below, if there is one. -/
def down (field : TextField) : TextField :=
  field.down?.getD field

/-! ## What is shown -/

/-- What stands for a character that is not shown. -/
def bullet : Char := '•'

/-- The shown form of a text. -/
def shown (kind : FieldKind) (text : List Char) : List Char :=
  match kind with
  | .masked => text.map fun _ => bullet
  | _ => text

def shownText (field : TextField) : List Char :=
  shown field.kind field.content

/-- The number of bytes before the cursor in the text as it is shown. -/
def shownCursor (field : TextField) : Nat :=
  Text.byteCount (shown field.kind field.before)

end TextField

end DocsConsole
