import Reminders.Action
import Reminders.Error
import Reminders.Recurrence

/-!
# Reminders

A reminder is a *timer*, which rings once after some seconds, a *calendar*
reminder, which rings at a date time or on selected days of selected months, or
an *alarm*, which rings at an hour and minute, once or on selected weekdays.  A
request says which of them it is, what it shows, and how long and how often it
rings.

`validate` refuses a request that makes no sense.  `firstTrigger` is when a
request rings first.  `nextTrigger` is when it rings again by its kind, which
leaves snoozes aside.
-/

namespace Reminders

/-! ## Kinds -/

/-- The type of a reminder. -/
inductive ReminderType where
  | timer
  | calendar
  | alarm
deriving Repr, DecidableEq, Inhabited

instance : Coded ReminderType where
  title := "reminder type"
  choices := [.timer, .calendar, .alarm]
  number
    | .timer => 0
    | .calendar => 1
    | .alarm => 2
  name
    | .timer => "Timer"
    | .calendar => "Calendar"
    | .alarm => "Alarm"
  find_number a := by cases a <;> rfl

/-- When a reminder rings. -/
inductive ReminderKind where
  /-- Once, after some seconds. -/
  | timer (seconds : UInt64)
  /-- At a date time, or at its time of day on the given days of the given months. -/
  | calendar (dateTime : LocalDateTime) (months days : List UInt8)
  /-- At an hour and minute, once or on the given weekdays. -/
  | alarm (hour minute : UInt8) (weekdays : List UInt8)
deriving DecidableEq, Inhabited

namespace ReminderKind

/-- The type of the reminder. -/
def type : ReminderKind → ReminderType
  | .timer _ => .timer
  | .calendar _ _ _ => .calendar
  | .alarm _ _ _ => .alarm

/-- The seconds that no timer may have, nor any number above. -/
def countdownLimit : Nat := (UInt64.size - 1) / 1000

/-- Whether the numbers of a kind make sense. -/
def validate : ReminderKind → Except Error Unit
  | .timer seconds =>
      if seconds = 0 ∨ countdownLimit ≤ seconds.toNat then .error (.invalid .countdown) else .ok ()
  | .calendar dateTime months days => do
      let _ ← dateTime.toDateTime
      if Recurrence.monthsPerYear < months.length then throw (.invalid .months)
      if Recurrence.daysPerMonth < days.length then throw (.invalid .days)
  | .alarm hour minute weekdays => do
      if 24 ≤ hour.toNat then throw (.invalid .hour)
      if 60 ≤ minute.toNat then throw (.invalid .minute)
      if Recurrence.daysPerWeek < weekdays.length then throw (.invalid .weekdays)

/-- Whether the kind rings more than once. -/
def repeats : ReminderKind → Bool
  | .timer _ => false
  | .calendar _ months days =>
      Recurrence.monthMask months ≠ 0 && Recurrence.dayMask days ≠ 0
  | .alarm _ _ weekdays => Recurrence.weekdayMask weekdays ≠ 0

/-- When the kind rings next.  Nothing bars a timer or a single alarm from
ringing again, and an alarm that is over for today rings tomorrow. -/
def trigger (kind : ReminderKind) (now : DateTime) :
    Except Overflow (Except Error (Option DateTime)) :=
  match kind with
  | .timer seconds => .ok (.ok (Recurrence.afterSeconds? now seconds.toNat))
  | .calendar dateTime months days =>
      .ok (dateTime.toDateTime.map fun first =>
        Recurrence.nextCalendar? first (Recurrence.monthMask months) (Recurrence.dayMask days) now)
  | .alarm hour minute weekdays =>
      (Recurrence.nextAlarm hour minute (Recurrence.weekdayMask weekdays) now true).map .ok

end ReminderKind

/-! ## Requests -/

/-- What a bundle asks to be reminded of. -/
structure ReminderRequest where
  /-- When it rings. -/
  kind : ReminderKind
  /-- Its buttons. -/
  actionButtons : List ActionButton := []
  /-- What a tap opens. -/
  wantAgent : Option Ability := none
  /-- What is opened over the whole screen when it rings. -/
  maxScreenWantAgent : Option Ability := none
  /-- How many seconds it rings, zero for the least. -/
  ringDuration : UInt64 := 0
  /-- How often it rings again by itself, zero for the default of its kind. -/
  snoozeTimes : UInt8 := 0
  /-- The seconds between two of these rings, zero for no such ring. -/
  timeInterval : UInt64 := 0
  /-- The title it shows. -/
  title : String := ""
  /-- The text it shows. -/
  content : String := ""
  /-- The text it shows when it is over, empty for the same. -/
  expiredContent : String := ""
  /-- The text it shows while it is snoozed, empty for the same. -/
  snoozeContent : String := ""
  /-- The id of the notification that shows it. -/
  notificationId : Int32 := 0
  /-- The type of the slot of the notification. -/
  slotType : SlotType := .socialCommunication
deriving DecidableEq, Inhabited

namespace ReminderRequest

/-- The type of the reminder. -/
def type (r : ReminderRequest) : ReminderType := r.kind.type

/-- The most buttons a reminder may have. -/
def buttonLimit : Nat := 2

/-- Whether the buttons fit and differ in what they do. -/
def validateButtons (buttons : List ActionButton) : Except Error Unit :=
  if buttonLimit < buttons.length then .error (.invalid .manyButtons)
  else
    match buttons with
    | [first, second] =>
        if first.type = second.type then .error (.invalid .equalButtons) else .ok ()
    | _ => .ok ()

/-- Whether the request makes sense. -/
def validate (r : ReminderRequest) : Except Error Unit := do
  r.kind.validate
  validateButtons r.actionButtons

/-- How many seconds it rings. -/
def ringSeconds (r : ReminderRequest) : Nat := max 1 r.ringDuration.toNat

/-- How often a reminder other than a timer rings again by itself, unless it says so. -/
def defaultSnoozes : UInt8 := 3

/-- How often it rings again by itself. -/
def snoozes (r : ReminderRequest) : UInt8 :=
  match r.kind with
  | .timer _ => r.snoozeTimes
  | _ => if r.snoozeTimes = 0 then defaultSnoozes else r.snoozeTimes

/-- The fewest seconds between two rings. -/
def leastInterval : Nat := 300

/-- The seconds between two rings, zero for no such ring. -/
def interval (r : ReminderRequest) : Nat :=
  if r.timeInterval = 0 then 0 else max leastInterval r.timeInterval.toNat

/-- The first button of a type. -/
def actionButton? (r : ReminderRequest) (type : ActionButtonType) : Option ActionButton :=
  r.actionButtons.find? (·.type = type)

/-- When it rings first. -/
def firstTrigger (r : ReminderRequest) (now : DateTime) :
    Except Overflow (Except Error (Option DateTime)) :=
  r.kind.trigger now

/-- When it rings again by its kind. -/
def nextTrigger (r : ReminderRequest) (now : DateTime) :
    Except Overflow (Except Error (Option DateTime)) :=
  if r.kind.repeats then r.kind.trigger now else .ok (.ok none)

/-- Whether it rings more than once. -/
def isRepeating (r : ReminderRequest) : Bool :=
  r.kind.repeats || (0 < r.interval && 0 < r.snoozes)

end ReminderRequest

end Reminders
