import DocsConsole.Console.Action

/-!
# Keys

While a field has the keyboard, keys are text; otherwise they are shortcuts.  The
key to quit with Control works in both modes.
-/

namespace DocsConsole

/-- What keys mean. -/
inductive InputMode where
  /-- Keys are shortcuts. -/
  | shortcuts
  /-- Keys are typed into a field. -/
  | typing
deriving DecidableEq, Repr, Inhabited

inductive Key where
  | character (c : Char)
  | enter
  | escape
  | tab
  | backTab
  | backspace
  | delete
  | up
  | down
  | left
  | right
  | pageUp
  | pageDown
  /-- A key that means nothing here. -/
  | other
deriving DecidableEq, Repr, Inhabited

/-- A key with what is held down while it is pressed. -/
structure KeyPress where
  key : Key
  control : Bool
  alt : Bool
deriving DecidableEq, Repr, Inhabited

/-- What a terminal reports. -/
inductive TerminalEvent where
  | pressed (press : KeyPress)
  | released
  | pasted (text : String)
  | resized
  | focusChanged
deriving DecidableEq, Repr, Inhabited

namespace KeyPress

/-- What a key means with Control while text is typed. -/
def typedWithControl : Key → Option Action
  | .character 'w' => some (.edit .eraseWord)
  | .character 's' => some .submit
  | .enter => some .submit
  | _ => none

/-- What a key means while text is typed. -/
def typed : Key → Option Action
  | .escape => some .cancel
  | .tab => some .focusNext
  | .backTab => some .focusPrevious
  | .enter => some (.edit .newline)
  | .up => some .up
  | .down => some .down
  | .backspace => some (.edit .eraseCharacter)
  | .character c => some (.edit (.character c))
  | _ => none

/-- What a letter means as a shortcut. -/
def letterShortcut : Char → Option Action
  | 'q' => some .quit
  | '?' => some .toggleHelp
  | 'k' => some .up
  | 'j' => some .down
  | 'e' => some .startEditing
  | 'i' => some .startEditing
  | 'g' => some .generate
  | 'p' => some .togglePurpose
  | 's' => some .download
  | 'x' => some .exportPreview
  | 'a' => some .analyze
  | 'd' => some .removeSelected
  | 'D' => some .disconnect
  | '1' => some (.showTab .documentation)
  | '2' => some (.showTab .github)
  | '3' => some (.showTab .quality)
  | _ => none

/-- What a key means as a shortcut. -/
def shortcut : Key → Option Action
  | .character c => letterShortcut c
  | .right => some .nextTab
  | .left => some .previousTab
  | .tab => some .focusNext
  | .backTab => some .focusPrevious
  | .up => some .up
  | .down => some .down
  | .pageUp => some .pageUp
  | .pageDown => some .pageDown
  | .enter => some .confirm
  | .escape => some .cancel
  | .delete => some .removeSelected
  | _ => none

def action? (mode : InputMode) (press : KeyPress) : Option Action :=
  if press.control ∧ press.key = .character 'c' then some .quit
  else
    match mode with
    | .shortcuts => shortcut press.key
    | .typing =>
        if press.control then typedWithControl press.key
        else if press.alt ∧ press.key = .enter then some .submit
        else typed press.key

end KeyPress

def TerminalEvent.action? (mode : InputMode) : TerminalEvent → Option Action
  | .pressed press => press.action? mode
  | .pasted text => some (.edit (.paste text))
  | .resized => some .tick
  | .released => none
  | .focusChanged => none

end DocsConsole
