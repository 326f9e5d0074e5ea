import Reminders.Bundle
import Reminders.Json.Printer
import Reminders.Slot.Basic
import Reminders.Time.Local

/-!
# Why a request is refused

An `Error` is the cause of a refusal.  `Error.code` is the number that callers
see, where zero would mean success, and `Error.message` says the cause in words.
A parameter that is refused has a cause of its own, an `Invalid`.

An operation on a state leaves a state behind whatever becomes of it.  It is an
`Outcome` if it may be refused, and an `Attempt` if it may overflow.
-/

namespace Reminders

/-- Why a parameter is refused. -/
inductive Invalid where
  /-- A timer of no seconds, or of more than can be counted in milliseconds. -/
  | countdown
  /-- An hour that a day does not have. -/
  | hour
  /-- A minute that an hour does not have. -/
  | minute
  /-- More weekdays than a week has. -/
  | weekdays
  /-- More months than a year has. -/
  | months
  /-- More days than a month has. -/
  | days
  /-- Numbers that are not those of a date time. -/
  | localDateTime (t : LocalDateTime)
  /-- More action buttons than fit. -/
  | manyButtons
  /-- Two action buttons of one type. -/
  | equalButtons
  /-- A number that stands for no choice of the named kind. -/
  | unknownNumber (title : String) (n : Int)
  /-- Null in place of a slot. -/
  | nullSlot
  /-- A number that cannot be that of a slot type. -/
  | slotTypeRange (n : Number)
  /-- A value that cannot stand for a slot. -/
  | slotArgument (value : Json)
  /-- An object that does not describe a slot. -/
  | slotDescription
  /-- A slot of unknown type. -/
  | unknownSlot
  /-- Quiet hours that end before they begin. -/
  | emptyWindow
  /-- An id that no reminder has. -/
  | noReminder (id : Int32)
  /-- A reminder that is not on screen. -/
  | notShowing (id : Int32)
  /-- A snooze past the last date. -/
  | snoozeRange
  /-- Any other cause, in words. -/
  | other (text : String)
deriving Inhabited

/-- The cause in words. -/
def Invalid.message : Invalid → String
  | .countdown => "illegal count down time"
  | .hour => "hour is not between [0, 24)"
  | .minute => "minute is not between [0, 60)"
  | .weekdays => "daysOfWeek should not be longer than 7"
  | .months => "repeatMonths should not be longer than 12"
  | .days => "repeatDays should not be longer than 31"
  | .localDateTime t => "invalid calendar date time " ++ t.shown
  | .manyButtons => "at most two action buttons are allowed"
  | .equalButtons => "action button types must differ"
  | .unknownNumber title n => "unknown " ++ title ++ " " ++ Text.decimal n
  | .nullSlot => "slot argument is null"
  | .slotTypeRange n => "slot type " ++ String.ofList (Json.numberChars n) ++ " out of range"
  | .slotArgument value => "unsupported slot argument " ++ value.compact
  | .slotDescription => "malformed slot: it does not describe one"
  | .unknownSlot => "cannot add a slot of unknown type"
  | .emptyWindow => "do-not-disturb end must follow begin"
  | .noReminder id => "reminder " ++ Text.decimal id.toInt ++ " does not exist"
  | .notShowing id => "reminder " ++ Text.decimal id.toInt ++ " is not showing"
  | .snoozeRange => "snooze interval out of range"
  | .other text => text

/-- Why a request is refused. -/
inductive Error where
  /-- There is nothing that could run the request. -/
  | notReady
  /-- A parameter is refused. -/
  | invalid (cause : Invalid)
  /-- The name of a bundle is blank. -/
  | invalidBundle (name : String)
  /-- The bundle may not notify. -/
  | notAllowed (name : String)
  /-- No notification has this id and label. -/
  | noNotification (id : Int32) (label : String)
  /-- There is no slot of this type. -/
  | noSlot (type : SlotType)
  /-- The bundle owns as many reminders as it may. -/
  | bundleFull (name : String) (limit : Nat)
  /-- There are as many reminders as there may be. -/
  | systemFull (limit : Nat)
  /-- The reminder would never ring. -/
  | neverRings
  /-- The place of a store cannot be read or written. -/
  | storage (cause : String)
  /-- A text does not hold what it should. -/
  | malformed (cause : String)
deriving Inhabited

namespace Error

/-- The number that callers see.  It is never zero. -/
def code : Error → Nat
  | .notReady => 1
  | .invalid _ => 3
  | .invalidBundle _ => 6
  | .notAllowed _ => 7
  | .noNotification _ _ => 14
  | .noSlot _ => 20
  | .bundleFull _ _ => 30
  | .systemFull _ => 31
  | .neverRings => 32
  | .storage _ => 40
  | .malformed _ => 41

/-- The cause in words. -/
def message : Error → String
  | .notReady => "service not ready"
  | .invalid cause => "invalid parameter: " ++ cause.message
  | .invalidBundle name => "invalid bundle: " ++ Text.quoted name
  | .notAllowed name => "notifications are not allowed for `" ++ name ++ "`"
  | .noNotification id label =>
      "notification " ++ Text.decimal id.toInt ++ " (label " ++ Text.quoted label ++
        ") does not exist"
  | .noSlot type => "notification slot " ++ Coded.name type ++ " does not exist"
  | .bundleFull name limit =>
      "bundle `" ++ name ++ "` already owns " ++ Text.decimal limit ++ " valid reminders"
  | .systemFull limit => "system already holds " ++ Text.decimal limit ++ " reminders"
  | .neverRings => "reminder has no next trigger time"
  | .storage cause => "reminder store failure: " ++ cause
  | .malformed cause => "serialization failure: " ++ cause

theorem code_ne_zero (e : Error) : e.code ≠ 0 := by
  cases e <;> simp [code]

end Error

/-- What a callback is told about a result. -/
structure Report where
  /-- Zero for success, and else the number of the error. -/
  code : Nat
  /-- The cause in words, empty for success. -/
  message : String
deriving Repr, DecidableEq

namespace Report

/-- The report of a result. -/
def ofResult {α : Type} : Except Error α → Report
  | .ok _ => ⟨0, ""⟩
  | .error e => ⟨e.code, e.message⟩

/-- Whether the report is one of success. -/
def isOk (r : Report) : Bool := r.code = 0

theorem isOk_ofResult {α : Type} (result : Except Error α) :
    (ofResult result).isOk = result.isOk := by
  cases result with
  | ok _ => rfl
  | error e => simp [ofResult, isOk, Except.isOk, Except.toBool, Error.code_ne_zero]

end Report

/-! ## Operations on a state -/

/-- What an operation comes to: the state behind it, and its answer or the cause
of a refusal. -/
abbrev Outcome (σ α : Type) := σ × Except Error α

/-- What an operation comes to that may have to find a moment past the last date.
It then stops halfway, and the state behind it is the one it had reached. -/
abbrev Attempt (σ α : Type) := σ × Except Overflow α

/-! ## Checks -/

/-- The choice a number stands for, or the refusal of the number. -/
def Coded.ofNumber {α : Type} [Coded α] (n : Int) : Except Error α :=
  match Coded.ofNumber? n with
  | some a => .ok a
  | none => .error (.invalid (.unknownNumber (Coded.title α) n))

/-- The date time with these numbers, or the refusal of the numbers. -/
def LocalDateTime.toDateTime (t : LocalDateTime) : Except Error DateTime :=
  match t.toDateTime? with
  | some moment => .ok moment
  | none => .error (.invalid (.localDateTime t))

/-- Whether a bundle may own anything. -/
def Bundle.validate (b : Bundle) : Except Error Unit :=
  if b.isNamed then .ok () else .error (.invalidBundle b.name)

end Reminders
