import Reminders.Notification.Basic
import Reminders.Reminder.Basic
import Reminders.Time.Zone

/-!
# Entries of a schedule

An *entry* is a reminder that a bundle published, with the moment it rings next
and what became of it so far.  It waits, it is on screen, where it may still be
alerting, or the user snoozed it.  It has expired when it will not ring again.

`Entry.rung` is an entry after it rang.  It then counts down its snoozes, if its
request has an interval, and otherwise moves to its next ring by kind.  An entry
whose next ring would be past the last date is on screen, but does not move.
-/

namespace Reminders

/-! ## Entries -/

/-- What a reminder does between two rings. -/
inductive ReminderStatus where
  /-- It waits for its next ring. -/
  | active
  /-- It is on screen. -/
  | showing (alerting : Bool)
  /-- The user put it off. -/
  | snoozed
deriving Repr, DecidableEq, Inhabited

/-- Whether the reminder is on screen. -/
def ReminderStatus.isShowing : ReminderStatus → Bool
  | .showing _ => true
  | .active | .snoozed => false

/-- A published reminder. -/
structure Entry where
  /-- The id it was given. -/
  id : Int32
  /-- Who published it. -/
  bundle : Bundle
  /-- What was published. -/
  request : ReminderRequest
  /-- When it rings next. -/
  trigger : Option DateTime
  /-- What it does now. -/
  status : ReminderStatus
  /-- Whether it will not ring again. -/
  expired : Bool
  /-- How often it still rings again by itself. -/
  snoozesLeft : UInt8
  /-- When it was last shown. -/
  lastShown : Option DateTime
deriving DecidableEq, Inhabited

namespace Entry

/-- Whether a bundle owns the reminder. -/
def isOwnedBy (e : Entry) (bundle : Bundle) : Bool := e.bundle.name == bundle.name

/-- Whether the reminder has to ring. -/
def isDue (e : Entry) (now : DateTime) : Bool :=
  !e.expired && e.trigger.any fun trigger => trigger ≤ now

/-- Whether the reminder has expired and is off the screen. -/
def isOver (e : Entry) : Bool := e.expired && !e.status.isShowing

/-- Entries are ordered by the moment they ring next, where those that do not
ring come first, and then by id. -/
def order : Entry → Entry → Ordering := compareLex (compareOn trigger) (compareOn id)

/-- Whether an entry stands before another one, or on a par with it. -/
def precedes (a b : Entry) : Bool := (order a b).isLE

/-! ## What an entry shows -/

/-- The label of every notification that shows a reminder. -/
def label : String := "REMINDER_AGENT"

/-- The notification that shows a reminder, with a text. -/
def notification [LocalTime] (e : Entry) (text : String) : NotificationRequest where
  id := e.request.notificationId
  label := label
  slotType := e.request.slotType
  content := .basicText { title := e.request.title, text := text }
  wantAgent := e.request.wantAgent
  actionButtons := e.request.actionButtons
  showDeliveryTime := true
  tapDismissed := true
  deliveryTime := e.lastShown.bind LocalTime.milliseconds?
  classification :=
    if e.request.type = .alarm then some NotificationRequest.alarmClass else none

/-- The first text that says something. -/
def textOr (text default : String) : String := if text = "" then default else text

/-- What the reminder shows once it was snoozed. -/
def snoozeText (e : Entry) : String := textOr e.request.snoozeContent e.request.content

/-- What the reminder shows once it stopped alerting. -/
def quietText (e : Entry) : String :=
  if e.expired then textOr e.request.expiredContent e.request.content else e.request.content

/-! ## How an entry moves on -/

/-- The entry moves to a moment at which it rings, or expires for want of one. -/
def movedTo (e : Entry) (trigger : Option DateTime) : Entry :=
  { e with trigger, expired := trigger.isNone }

/-- The entry, which is due, moves to its next ring. -/
def advance (e : Entry) (now : DateTime) : Attempt Entry Unit :=
  if e.request.type = .timer then (e.movedTo none, .ok ())
  else if 0 < e.request.interval ∧ 0 < e.snoozesLeft then
    let next := Recurrence.afterSeconds? now e.request.interval
    ({ e with snoozesLeft := e.snoozesLeft - 1 }.movedTo next, .ok ())
  else
    let renewed := { e with snoozesLeft := e.request.snoozes }
    match e.request.nextTrigger now with
    | .ok next => (renewed.movedTo next.toOption.join, .ok ())
    | .error overflow => (renewed, .error overflow)

/-- The entry after it rang. -/
def rung (e : Entry) (now : DateTime) : Attempt Entry Unit :=
  { e with status := .showing true, lastShown := some now }.advance now

/-- Whether the reminder has rung for as long as it may. -/
def hasRungOut (e : Entry) (now : DateTime) : Bool :=
  e.status = .showing true && e.lastShown.any fun shown =>
    (Recurrence.afterSeconds? shown e.request.ringSeconds).any fun stop => stop ≤ now

/-- Whether an entry hides another one: it is not the same reminder, but it is
shown by the same notification. -/
def covers (e other : Entry) : Bool :=
  other.id != e.id && other.isOwnedBy e.bundle &&
    other.request.notificationId == e.request.notificationId

/-- The entry once another one rang. -/
def coveredBy (other e : Entry) : Entry :=
  if e.covers other && other.status.isShowing then { other with status := .active } else other

/-- The trigger of an entry once the clock was set.  Only a reminder that waits
for its ring, and is neither a timer nor due, looks for its ring anew. -/
def refreshed (e : Entry) (now : DateTime) : Except Overflow Entry :=
  if e.expired || e.status ≠ .active || e.request.type = .timer || e.isDue now then .ok e
  else do
    match ← e.request.firstTrigger now with
    | .ok (some next) => return { e with trigger := some next }
    | .ok none => return { e with expired := true }
    | .error _ => return e

end Entry

/-! ## Alerts -/

/-- A reminder that rings. -/
structure Alert where
  /-- Who published it. -/
  bundle : Bundle
  /-- Its id. -/
  id : Int32
  /-- What shows it. -/
  notification : NotificationRequest
  /-- How many seconds it rings. -/
  ringSeconds : Nat
  /-- What is opened over the whole screen. -/
  maxScreenWantAgent : Option Ability
deriving DecidableEq, Inhabited

/-- The alert of an entry that rang. -/
def Entry.alert [LocalTime] (e : Entry) : Alert where
  bundle := e.bundle
  id := e.id
  notification := e.notification e.request.content
  ringSeconds := e.request.ringSeconds
  maxScreenWantAgent := e.request.maxScreenWantAgent

/-- The most milliseconds that are counted. -/
def Alert.greatestMilliseconds : Nat := Nat.pow 2 63 - 1

/-- How many milliseconds the alert rings, as far as they are counted. -/
def Alert.ringMilliseconds (a : Alert) : Nat :=
  min (a.ringSeconds * 1000) Alert.greatestMilliseconds

end Reminders
