import DocsConsole.Session.Toast

/-!
# The status bar

The status bar shows the last notification until it has been seen long enough.
-/

namespace DocsConsole

/-- The notification on screen. -/
structure StatusBar where
  toast : Option Toast
  /-- How long a notification is shown. -/
  seconds : Nat
deriving DecidableEq, Repr, Inhabited

namespace StatusBar

/-- A status bar without notification. -/
def quiet (seconds : Nat) : StatusBar :=
  ⟨none, seconds⟩

/-- Shows a notification in place of the one before. -/
def notify (bar : StatusBar) (toast : Toast) : StatusBar :=
  { bar with toast := some toast }

/-- Drops a notification that has been shown long enough. -/
def expire (bar : StatusBar) (now : Instant) : StatusBar :=
  { bar with toast := bar.toast.filter fun toast => !toast.isExpired now bar.seconds }

end StatusBar

end DocsConsole
