import Reminders.Time.DateTime

/-!
# The zone of the host

Date times are told by the clock of the host.  Which moment such a clock shows is
for the host to say: `LocalTime` is what it says, and stands as a parameter of
whatever tells a moment to others.
-/

namespace Reminders

/-- How the host reads its clock. -/
class LocalTime where
  /-- The milliseconds from the start of 1970 in universal time to the first moment at
  which the clock shows a date time.  There is none where the clock is put forward. -/
  milliseconds? : DateTime → Option Int64

/-- A clock that shows universal time. -/
@[reducible] def LocalTime.universal : LocalTime where
  milliseconds? := fun t => some (Int64.ofInt t.milliseconds)

end Reminders
