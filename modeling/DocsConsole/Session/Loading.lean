/-!
# Calls in flight

Every call to the backend holds a ticket until it is completed.  Something is
loading as long as one ticket is out, so a call that ends cannot hide another
one that goes on.
-/

namespace DocsConsole

/-- The number of a call.  No number is given out twice. -/
abbrev Ticket := Nat

/-- The calls in flight. -/
structure Loading where
  /-- The tickets that are out, oldest first, with what each call does. -/
  pending : List (Ticket × String)
  /-- The number of the next ticket. -/
  next : Ticket
deriving DecidableEq, Repr, Inhabited

namespace Loading

def idle : Loading := ⟨[], 0⟩

/-- Starts a call; its ticket is the next one. -/
def start (loading : Loading) (label : String) : Loading :=
  ⟨loading.pending ++ [(loading.next, label)], loading.next + 1⟩

/-- Whether a ticket is out. -/
def holds (loading : Loading) (ticket : Ticket) : Bool :=
  loading.pending.any (·.1 = ticket)

/-- Takes a ticket back. -/
def release (loading : Loading) (ticket : Ticket) : Loading :=
  { loading with pending := loading.pending.filter (·.1 ≠ ticket) }

def count (loading : Loading) : Nat :=
  loading.pending.length

def isActive (loading : Loading) : Bool :=
  !loading.pending.isEmpty

/-- What the call does that was started last of those in flight. -/
def currentLabel? (loading : Loading) : Option String :=
  loading.pending.getLast?.map (·.2)

end Loading

end DocsConsole
