import DocsConsole.CoreInstances

/-!
# Times

A time is a day, a second of that day and the nanoseconds since that second began.  The
calendar has a first and a last day, and a span of time has milliseconds that fit 64 bits.
Any two times are so close that the time between them is such a span.
-/

namespace DocsConsole

open scoped CoreInstances

/-- The nanoseconds of the longest span. -/
def TimeSpan.longest : Nat :=
  (2 ^ (63 : Nat) - 1) * 1000000

/-- A span of time.  It is negative if it goes back. -/
structure TimeSpan where
  nanoseconds : Int
  fits : nanoseconds.natAbs ≤ TimeSpan.longest
deriving DecidableEq, Repr

namespace TimeSpan

instance : LE TimeSpan :=
  ⟨fun left right => left.nanoseconds ≤ right.nanoseconds⟩

instance (left right : TimeSpan) : Decidable (left ≤ right) :=
  inferInstanceAs (Decidable (left.nanoseconds ≤ right.nanoseconds))

/-- The span of a number of seconds, if it is not too long. -/
def ofSeconds? (seconds : Int) : Option TimeSpan :=
  if fits : (seconds * 1000000000).natAbs ≤ longest then
    some ⟨seconds * 1000000000, fits⟩
  else none

end TimeSpan

structure Instant where
  /-- The days since the start of 1970. -/
  day : Int
  second : Fin 86400
  /-- A leap second is counted on from the second before it. -/
  nanosecond : Fin 2000000000
  /-- The calendar goes from the first day of the year -262143 to the last day of 262142. -/
  inCalendar : -96465292 ≤ day ∧ day ≤ 95026236
deriving DecidableEq, Repr

namespace Instant

/-- The time a number of milliseconds after the start of 1970.  It stays in the calendar. -/
def ofMilliseconds (milliseconds : Int) : Instant where
  day := max (-96465292) (min 95026236 (milliseconds / 86400000))
  second := ⟨(milliseconds / 1000 % 86400).toNat, by omega⟩
  nanosecond := ⟨(milliseconds % 1000 * 1000000).toNat, by omega⟩
  inCalendar := by omega

instance : Coe Int Instant :=
  ⟨ofMilliseconds⟩

/-- Zero is the start of 1970. -/
instance : OfNat Instant 0 :=
  ⟨ofMilliseconds 0⟩

instance : Inhabited Instant :=
  ⟨0⟩

/-- The leap seconds between two times of day.  Only a leap second that one of the times is in
is counted. -/
def leapSecondsSince (later earlier : Instant) : Int :=
  if earlier.second < later.second then
    if 1000000000 ≤ earlier.nanosecond.val then 1 else 0
  else if later.second < earlier.second then
    if 1000000000 ≤ later.nanosecond.val then -1 else 0
  else 0

/-- The nanoseconds from one time to another. -/
def nanosecondsSince (later earlier : Instant) : Int :=
  ((later.day - earlier.day) * 86400 + (later.second.val - earlier.second.val) +
      later.leapSecondsSince earlier) * 1000000000 +
    (later.nanosecond.val - earlier.nanosecond.val)

theorem leapSecondsSince_small (later earlier : Instant) :
    -1 ≤ later.leapSecondsSince earlier ∧ later.leapSecondsSince earlier ≤ 1 := by
  unfold leapSecondsSince
  split
  · split <;> decide
  · split
    · split <;> decide
    · decide

/-- Any two times are so close that the time between them can be measured. -/
theorem nanosecondsSince_fits (later earlier : Instant) :
    (later.nanosecondsSince earlier).natAbs ≤ TimeSpan.longest := by
  have leap := leapSecondsSince_small later earlier
  have laterDay := later.inCalendar
  have earlierDay := earlier.inCalendar
  have laterSecond := later.second.isLt
  have earlierSecond := earlier.second.isLt
  have laterNanosecond := later.nanosecond.isLt
  have earlierNanosecond := earlier.nanosecond.isLt
  have bound : TimeSpan.longest = 9223372036854775807000000 := rfl
  rw [bound]
  simp only [nanosecondsSince]
  omega

/-- The time between two times. -/
def since (later earlier : Instant) : TimeSpan :=
  ⟨later.nanosecondsSince earlier, later.nanosecondsSince_fits earlier⟩

end Instant

end DocsConsole
