import Reminders.Error
import Reminders.Json.Variant
import Reminders.Notification.Basic
import Reminders.Time.Written

/-!
# Quiet hours

During quiet hours notifications appear without sound, light and vibration, save
for those that a *mode* lets through.

Quiet hours of the kind `once` begin at a date time and last to the next time of
day that is given as their end.  Those of the kind `daily` do so every day, and
only the times of day count.  Those of the kind `clearly` last from one date time
to another.  In each case the beginning belongs to the quiet hours, and the end
does not.
-/

namespace Reminders

/-! ## Kinds and modes -/

/-- How quiet hours recur. -/
inductive QuietKind where
  | none
  | once
  | daily
  | clearly
deriving Repr, DecidableEq, Inhabited

instance : Coded QuietKind where
  title := "do-not-disturb type"
  choices := [.none, .once, .daily, .clearly]
  number
    | .none => 0
    | .once => 1
    | .daily => 2
    | .clearly => 3
  name
    | .none => "None"
    | .once => "Once"
    | .daily => "Daily"
    | .clearly => "Clearly"
  find_number a := by cases a <;> rfl

/-- What quiet hours let through. -/
inductive QuietMode where
  | allowUnknown
  | allowAll
  | allowPriority
  | allowNone
  | allowAlarms
deriving Repr, DecidableEq

namespace QuietMode

instance : Inhabited QuietMode := ⟨.allowAll⟩

/-- The name of a mode. -/
def name : QuietMode → String
  | .allowUnknown => "AllowUnknown"
  | .allowAll => "AllowAll"
  | .allowPriority => "AllowPriority"
  | .allowNone => "AllowNone"
  | .allowAlarms => "AllowAlarms"

/-- A mode as a JSON value. -/
def toJson (m : QuietMode) : Json := .text m.name

/-- The mode that a JSON value names. -/
def ofJson? (value : Json) : Option QuietMode :=
  value.choice? name [.allowUnknown, .allowAll, .allowPriority, .allowNone, .allowAlarms]

end QuietMode

/-! ## Quiet hours -/

/-- When quiet hours begin and end, and how they recur. -/
structure QuietHours where
  /-- How they recur. -/
  kind : QuietKind := .none
  /-- When they begin. -/
  start : DateTime := .first
  /-- When they end. -/
  stop : DateTime := .first
deriving DecidableEq, Inhabited

namespace QuietHours

/-- Whether the quiet hours can be set. -/
def validate (q : QuietHours) : Except Error Unit :=
  if q.kind = .clearly ∧ q.stop ≤ q.start then .error (.invalid .emptyWindow) else .ok ()

/-- The end of quiet hours that occur once. -/
def onceStop (q : QuietHours) : Except Overflow DateTime :=
  let sameDay : DateTime := ⟨q.start.date, q.stop.time⟩
  if sameDay ≤ q.start then sameDay.daysLater 1 else .ok sameDay

/-- Whether it is quiet. -/
def isActive (q : QuietHours) (now : DateTime) : Except Overflow Bool :=
  match q.kind with
  | .none => .ok false
  | .once => do
      let stop ← q.onceStop
      return q.start ≤ now && now < stop
  | .daily =>
      let start := q.start.time.instant
      let stop := q.stop.time.instant
      let time := now.time.instant
      if start < stop then .ok (start ≤ time && time < stop)
      else .ok (start ≤ time || time < stop)
  | .clearly => .ok (q.start ≤ now && now < q.stop)

/-- Whether a slot is exempt from quiet hours.  A notification without a slot is
refused. -/
def bypasses (slot : Option Slot) (request : NotificationRequest) : Except Error Bool :=
  match slot with
  | some slot => .ok slot.bypassesQuiet
  | none => .error (.noSlot request.slotType)

/-- Whether a mode lets a notification through during quiet hours. -/
def passes (mode : QuietMode) (slot : Option Slot) (request : NotificationRequest) :
    Except Error Bool :=
  match mode with
  | .allowAll => .ok true
  | .allowAlarms => if request.isAlarm then .ok true else bypasses slot request
  | .allowNone => bypasses slot request
  | .allowPriority | .allowUnknown => .ok false

/-- Whether a notification may sound, light up and vibrate. -/
def allowsAlert (q : QuietHours) (mode : QuietMode) (now : DateTime) (slot : Option Slot)
    (request : NotificationRequest) : Except Overflow (Except Error Bool) := do
  if ← q.isActive now then return passes mode slot request
  return .ok true

/-! ## In JSON -/

/-- Quiet hours as a JSON value. -/
def toJson (q : QuietHours) : Json :=
  .object [("type", Coded.toJson q.kind), ("begin", q.start.toJson), ("end", q.stop.toJson)]

/-- The quiet hours that a JSON value holds. -/
def ofJson? (value : Json) : Option QuietHours := do
  let fields ← Json.fields? [.needed "type", .needed "begin", .needed "end"] value
  let kind ← fields.required "type" Coded.ofJson?
  let start ← fields.required "begin" DateTime.ofJson?
  let stop ← fields.required "end" DateTime.ofJson?
  return { kind, start, stop }

end QuietHours

end Reminders
