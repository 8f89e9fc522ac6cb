import DocsConsole.CoreInstances

/-!
# Stacked heights

The parts of a panel stand one below the other.  All but one want a fixed height,
and the elastic one takes what is left, but not less than it needs.

When there is not enough room, the elastic part comes first.  What is left is
dealt out row by row, always to a run of neighbours of equal height, so that the
heights of neighbours differ as little as possible in sum.  If two runs are as
good, the differences at the end do not count.  The last rows may not suffice for
every part of a run; then they are spread evenly.
-/

namespace DocsConsole.Terminal

open scoped CoreInstances

/-- What a part of a panel wants. -/
inductive Extent where
  /-- A fixed height. -/
  | fixed (height : Nat)
  /-- At least a height. -/
  | elastic (height : Nat)
deriving DecidableEq, Repr, Inhabited

namespace Extent

def least : Extent → Nat
  | fixed height => height
  | elastic height => height

/-- The height that an elastic part has before others. -/
def reserved : Extent → Nat
  | fixed _ => 0
  | elastic height => height

end Extent

/-- A part while heights are dealt out. -/
structure Share where
  /-- The height so far. -/
  height : Nat
  /-- The height that is wanted. -/
  wanted : Nat
deriving DecidableEq, Repr

/-- Neighbouring parts that grow together. -/
structure Run where
  first : Nat
  count : Nat
deriving DecidableEq, Repr

namespace Run

/-- What the difference between a run and a neighbour gains when the run grows. -/
def gain (shares : List Share) (height : Nat) (neighbour : Nat) : Int :=
  match shares[neighbour]? with
  | none => 0
  | some share => if share.height ≤ height then 1 else -1

/-- What the first so many differences of neighbours gain when a run grows by a row. -/
def gainUpTo (shares : List Share) (run : Run) (differences : Nat) : Int :=
  let height := (shares[run.first]?.map (·.height)).getD 0
  let above := if run.first = 0 then 0 else gain shares height (run.first - 1)
  let below := gain shares height (run.first + run.count)
  (if run.first ≤ differences then above else 0) +
    (if run.first + run.count ≤ differences then below else 0)

/-- Whether a run is better than another one, with a number of differences that count.  Gains
are taken by row. -/
def isBetter (shares : List Share) (run other : Run) : Nat → Bool
  | 0 => false
  | differences + 1 =>
      let mine := gainUpTo shares run (differences + 1) * other.count
      let others := gainUpTo shares other (differences + 1) * run.count
      if mine = others then isBetter shares run other differences else mine < others

/-- Whether a run can grow: its parts are of equal height and want more. -/
def canGrow (shares : List Share) (run : Run) : Bool :=
  let parts := (shares.drop run.first).take run.count
  parts.length = run.count && run.count ≠ 0 &&
    parts.all fun part => part.height < part.wanted && some part.height = parts.head?.map (·.height)

/-- All runs of a number of parts. -/
def all (parts : Nat) : List Run :=
  (List.range parts).flatMap fun first =>
    (List.range (parts - first)).map fun count => ⟨first, count + 1⟩

/-- The run that grows next. -/
def next? (shares : List Share) : Option Run :=
  ((all shares.length).filter (canGrow shares)).foldl
    (fun best run =>
      match best with
      | none => some run
      | some best => if isBetter shares run best (shares.length - 1) then some run else some best)
    none

/-- The nearest whole number to a share of some rows.  A half goes up. -/
def portion (rows count place : Nat) : Nat :=
  (2 * rows * place + count) / (2 * count)

/-- The rows that a part of a run gets when some rows are spread over it. -/
def spread (rows : Nat) (run : Run) (place : Nat) : Nat :=
  if run.first ≤ place ∧ place < run.first + run.count then
    portion rows run.count (place - run.first + 1) - portion rows run.count (place - run.first)
  else 0

end Run

namespace Stack

/-- Deals out rows, with a bound on the number of steps. -/
def deal : Nat → Nat → List Share → List Share
  | 0, _, shares => shares
  | steps + 1, rows, shares =>
      match Run.next? shares with
      | none => shares
      | some run =>
          let given := min rows run.count
          let grown := shares.mapIdx fun place share =>
            { share with height := share.height + run.spread given place }
          if rows ≤ run.count then grown else deal steps (rows - run.count) grown

/-- Gives each elastic part what it has before others, as far as there is room. -/
def reserve : Nat → List Extent → List Share
  | _, [] => []
  | room, extent :: rest =>
      let height := min room extent.reserved
      ⟨height, match extent with
        | .fixed wanted => wanted
        | .elastic _ => 0⟩ :: reserve (room - height) rest

def total (heights : List Nat) : Nat :=
  heights.sum

/-- The heights of parts that fit into a room: the elastic one takes what is left. -/
def stretched (room : Nat) (extents : List Extent) : List Nat :=
  let rest := room - total (extents.map Extent.least)
  extents.map fun
    | .fixed height => height
    | .elastic height => height + rest

/-- The heights of parts that do not fit into a room. -/
def squeezed (room : Nat) (extents : List Extent) : List Nat :=
  let shares := reserve room extents
  (deal room (room - total (shares.map (·.height))) shares).map (·.height)

/-- The heights of the parts of a panel. -/
def heights (room : Nat) (extents : List Extent) : List Nat :=
  if total (extents.map Extent.least) ≤ room then stretched room extents
  else squeezed room extents

end Stack

end DocsConsole.Terminal
