import DocsConsole.Session.Instant

/-!
# Notifications

A toast is shown for some seconds after it was made.
-/

namespace DocsConsole

open scoped CoreInstances

inductive ToastKind where
  | info
  | success
  | error
deriving DecidableEq, Repr, Inhabited

structure Toast where
  kind : ToastKind
  message : String
  createdAt : Instant
deriving DecidableEq, Repr, Inhabited

namespace Toast

/-- The span of a number of seconds, if the seconds fit 64 bits with a sign and the span is not
too long. -/
def lifetime? (seconds : Nat) : Option TimeSpan :=
  if seconds < 2 ^ (63 : Nat) then TimeSpan.ofSeconds? seconds else none

/-- Whether a toast has been shown long enough.  One that is shown for longer than can be
measured stays. -/
def isExpired (toast : Toast) (now : Instant) (seconds : Nat) : Bool :=
  match lifetime? seconds with
  | some span => span ≤ now.since toast.createdAt
  | none => false

end Toast

end DocsConsole
