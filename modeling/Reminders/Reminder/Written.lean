import Reminders.Reminder.Basic

/-!
# Reminder requests in JSON

A request is written as an object.  The fields of its kind stand among its own,
behind the name of the kind under `reminderType`.  When a request is read, the
fields of other kinds do not count, nor do any further fields.  But since each of
them might belong to the kind, all of them must be readable, and the name of the
kind must not come twice.
-/

namespace Reminders

/-! ## Kinds -/

namespace ReminderKind

/-- The name of the field with the name of the kind. -/
def tag : String := "reminderType"

/-- The name of a kind. -/
def typeName : ReminderType → String
  | .timer => "REMINDER_TYPE_TIMER"
  | .calendar => "REMINDER_TYPE_CALENDAR"
  | .alarm => "REMINDER_TYPE_ALARM"

/-- Numbers as a JSON value. -/
def numbers (ns : List UInt8) : Json := .list (fun n => .int n.toNat) ns

/-- The fields of a kind. -/
def fields : ReminderKind → Json.Fields
  | .timer seconds => [("triggerTimeInSeconds", .int seconds.toNat)]
  | .calendar dateTime months days =>
      [("dateTime", dateTime.toJson), ("repeatMonths", numbers months),
        ("repeatDays", numbers days)]
  | .alarm hour minute weekdays =>
      [("hour", .int hour.toNat), ("minute", .int minute.toNat), ("daysOfWeek", numbers weekdays)]

/-- The type that a JSON value names.  Its number will do for the name. -/
def type? : Json → Option ReminderType
  | .text name => (Coded.choices : List ReminderType).find? fun type => typeName type == name
  | value => Coded.ofJson? value

/-- The names of the fields of a type. -/
def names : ReminderType → List String
  | .timer => ["triggerTimeInSeconds"]
  | .calendar => ["dateTime", "repeatMonths", "repeatDays"]
  | .alarm => ["hour", "minute", "daysOfWeek"]

/-- The kind of a type that some fields hold. -/
def ofType? (type : ReminderType) (fields : Json.Fields) : Option ReminderKind :=
  match type with
  | .timer => do
      let seconds ← fields.required "triggerTimeInSeconds" Json.uint64?
      return .timer seconds
  | .calendar => do
      let dateTime ← fields.required "dateTime" LocalDateTime.ofJson?
      let months ← fields.defaulted "repeatMonths" (Json.list? Json.uint8?) []
      let days ← fields.defaulted "repeatDays" (Json.list? Json.uint8?) []
      return .calendar dateTime months days
  | .alarm => do
      let hour ← fields.required "hour" Json.uint8?
      let minute ← fields.required "minute" Json.uint8?
      let weekdays ← fields.defaulted "daysOfWeek" (Json.list? Json.uint8?) []
      return .alarm hour minute weekdays

/-- The kind that some fields hold. -/
def ofFields? (fields : Json.Fields) : Option ReminderKind := do
  let type ← fields.required tag type?
  if fields.unrepeated (tag :: names type) then ofType? type fields else none

end ReminderKind

/-! ## Requests -/

namespace ReminderRequest

/-- The names of the fields that a request has besides those of its kind. -/
def names : List String :=
  ["actionButtons", "wantAgent", "maxScreenWantAgent", "ringDuration", "snoozeTimes",
    "timeInterval", "title", "content", "expiredContent", "snoozeContent", "notificationId",
    "slotType"]

/-- A request as a JSON value. -/
def toJson (r : ReminderRequest) : Json :=
  .object ((ReminderKind.tag, .text (ReminderKind.typeName r.type)) :: r.kind.fields ++ [
    ("actionButtons", .list ActionButton.toJson r.actionButtons),
    ("wantAgent", .option Ability.toJson r.wantAgent),
    ("maxScreenWantAgent", .option Ability.toJson r.maxScreenWantAgent),
    ("ringDuration", .int r.ringDuration.toNat),
    ("snoozeTimes", .int r.snoozeTimes.toNat),
    ("timeInterval", .int r.timeInterval.toNat),
    ("title", .text r.title),
    ("content", .text r.content),
    ("expiredContent", .text r.expiredContent),
    ("snoozeContent", .text r.snoozeContent),
    ("notificationId", .int r.notificationId.toInt),
    ("slotType", Coded.toJson r.slotType)])

/-- The request that some fields hold. -/
def ofFields? (fields : Json.Fields) : Option ReminderRequest := do
  let actionButtons ← fields.defaulted "actionButtons" (Json.list? ActionButton.ofJson?) []
  let wantAgent ← fields.defaulted "wantAgent" (Json.nullable Ability.ofJson?) none
  let maxScreenWantAgent ←
    fields.defaulted "maxScreenWantAgent" (Json.nullable Ability.ofJson?) none
  let ringDuration ← fields.defaulted "ringDuration" Json.uint64? 0
  let snoozeTimes ← fields.defaulted "snoozeTimes" Json.uint8? 0
  let timeInterval ← fields.defaulted "timeInterval" Json.uint64? 0
  let title ← fields.defaulted "title" Json.text? ""
  let content ← fields.defaulted "content" Json.text? ""
  let expiredContent ← fields.defaulted "expiredContent" Json.text? ""
  let snoozeContent ← fields.defaulted "snoozeContent" Json.text? ""
  let notificationId ← fields.defaulted "notificationId" Json.int32? 0
  let slotType ← fields.defaulted "slotType" Coded.ofJson? .socialCommunication
  let others := fields.filter fun f => !names.contains f.1
  if others.all (·.2.readable) then
    let kind ← ReminderKind.ofFields? others
    return { kind, actionButtons, wantAgent, maxScreenWantAgent, ringDuration, snoozeTimes,
             timeInterval, title, content, expiredContent, snoozeContent, notificationId,
             slotType }
  else none

/-- The request that a JSON value holds. -/
def ofJson? (value : Json) : Option ReminderRequest := do
  let fields ← Json.objectFields? names value
  ofFields? fields

end ReminderRequest

end Reminders
