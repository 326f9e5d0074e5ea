import Reminders.Json.Variant
import Reminders.Reminder.Written
import Reminders.Schedule.Basic
import Reminders.Time.Written

/-!
# Schedules in JSON

A schedule is read from a *text*, where it was stored, or from a *value* that
someone handed over.  The two differ in one point: only in a text may what a
status carries be written as an array.
-/

namespace Reminders

/-- Where a JSON value comes from. -/
inductive JsonSource where
  | text
  | value
deriving Repr, DecidableEq

namespace ReminderStatus

/-- A status as a JSON value. -/
def toJson : ReminderStatus → Json
  | .active => .text "Active"
  | .showing alerting => .object [("Showing", .object [("alerting", .bool alerting)])]
  | .snoozed => .text "Snoozed"

/-- Whether a reminder on screen alerts, as its status carries it. -/
def alerting? (source : JsonSource) (carried : Json) : Option Bool := do
  let fields ← match source with
    | .text => Json.fields? [.needed "alerting"] carried
    | .value => Json.objectFields? ["alerting"] carried
  fields.required "alerting" Json.bool?

/-- The status that a JSON value holds. -/
def ofJson? (source : JsonSource) (value : Json) : Option ReminderStatus := do
  let v ← value.variant?
  match v.name with
  | "Active" => if v.isBare then some .active else none
  | "Snoozed" => if v.isBare then some .snoozed else none
  | "Showing" => (v.carried.bind (alerting? source)).map .showing
  | _ => none

end ReminderStatus

namespace Entry

/-- The parts of an entry in their order. -/
def parts : List Json.Part :=
  ["id", "bundle", "request", "trigger_at", "status", "expired", "snooze_remaining",
    "last_shown"].map .needed

/-- An entry as a JSON value. -/
def toJson (e : Entry) : Json :=
  .object [
    ("id", .int e.id.toInt),
    ("bundle", e.bundle.toJson),
    ("request", e.request.toJson),
    ("trigger_at", .option DateTime.toJson e.trigger),
    ("status", e.status.toJson),
    ("expired", .bool e.expired),
    ("snooze_remaining", .int e.snoozesLeft.toNat),
    ("last_shown", .option DateTime.toJson e.lastShown)]

/-- The entry that a JSON value holds. -/
def ofJson? (source : JsonSource) (value : Json) : Option Entry := do
  let fields ← Json.fields? parts value
  let id ← fields.required "id" Json.int32?
  let bundle ← fields.required "bundle" Bundle.ofJson?
  let request ← fields.required "request" ReminderRequest.ofJson?
  let trigger ← fields.defaulted "trigger_at" (Json.nullable DateTime.ofJson?) none
  let status ← fields.required "status" (ReminderStatus.ofJson? source)
  let expired ← fields.required "expired" Json.bool?
  let snoozesLeft ← fields.required "snooze_remaining" Json.uint8?
  let lastShown ← fields.defaulted "last_shown" (Json.nullable DateTime.ofJson?) none
  return { id, bundle, request, trigger, status, expired, snoozesLeft, lastShown }

end Entry

/-- A published reminder as a JSON value. -/
def PublishedReminder.toJson (r : PublishedReminder) : Json :=
  .object [("id", .int r.id.toInt), ("request", r.request.toJson)]

namespace Schedule

/-- A schedule as a JSON value. -/
def toJson (s : Schedule) : Json :=
  .object [("last_id", .int s.lastId.toInt), ("entries", .list Entry.toJson s.entries)]

/-- The schedule that a JSON value holds. -/
def ofJson? (source : JsonSource) (value : Json) : Option Schedule := do
  let fields ← Json.fields? [.needed "last_id", .needed "entries"] value
  let lastId ← fields.required "last_id" Json.int32?
  let entries ← fields.required "entries" (Json.list? (Entry.ofJson? source))
  return { lastId, entries }

end Schedule

end Reminders
