import Reminders.Service
import Reminders.Slot.Argument
import Reminders.Store

/-!
# The engine

The engine keeps a schedule and shows by the service what rings.  It has a clock,
and may have a store, where it writes the schedule down whenever that has
changed.  A store that cannot be written is passed over.

Several applications share one engine.  An operation acts for a bundle, its
*caller*, and touches no reminder of others.  Only `tick` acts for all: it lets
the reminders ring that are due, and ends the ringing of those that rang for as
long as they may.

An operation that overflows leaves the engine as far as it got.  In the loop of
ticks that ends the loop, and for an operation with a callback it means that the
callback is never called.  The engine goes on in both cases.
-/

namespace Reminders

/-- A schedule, the service that shows it, the clock and the store. -/
structure Engine where
  /-- The reminders. -/
  schedule : Schedule := {}
  /-- What shows them. -/
  service : Service := {}
  /-- Where the schedule is written down. -/
  store : Option Store := none
  /-- What time it is. -/
  clock : DateTime
deriving Inhabited

namespace Engine

variable [LocalTime]

/-! ## Starting -/

/-- The schedule of a store, brought up to date. -/
def restored (store : Option Store) (clock : DateTime) : Except Overflow (Except Error Schedule) :=
  match store with
  | none => .ok (.ok {})
  | some place =>
      match place.load with
      | .error e => .ok (.error e)
      | .ok none => .ok (.ok {})
      | .ok (some schedule) => do
          let schedule ← schedule.refresh clock
          return .ok schedule.purge.1

/-- Starts an engine for a bundle. -/
def start (bundle : Bundle) (service : Service) (store : Option Store) (clock : DateTime) :
    Except Overflow (Except Error Engine) :=
  match bundle.validate with
  | .error e => .ok (.error e)
  | .ok () => do
      let restored ← restored store clock
      return restored.map fun schedule => { schedule, service, store, clock }

/-! ## The store -/

/-- Writes the schedule down, if that is possible. -/
def persist (e : Engine) : Engine :=
  match e.store with
  | none => e
  | some place =>
      match place.save e.schedule with
      | .ok place => { e with store := some place }
      | .error _ => e

/-! ## Reminders of the caller -/

/-- The first reminder with an id, if the caller owns it. -/
def owned? (e : Engine) (caller : Bundle) (id : Int32) : Option Entry :=
  (e.schedule.get? id).filter fun entry => entry.isOwnedBy caller

/-- Takes the notification of a reminder away, if it is there. -/
def dismiss (e : Engine) (caller : Bundle) (notificationId : Int32) : Engine :=
  match e.service.cancel caller notificationId Entry.label with
  | .ok service => { e with service }
  | .error _ => e

/-- Publishes a reminder. -/
def publish (e : Engine) (caller : Bundle) (request : ReminderRequest) :
    Attempt Engine (Except Error Int32) :=
  if e.service.isEnabled caller then
    let (schedule, result) := e.schedule.publish caller request e.clock
    let e := { e with schedule }
    match result with
    | .ok (.ok _) => (e.persist, result)
    | _ => (e, result)
  else (e, .ok (.error (.notAllowed caller.name)))

/-- Cancels a reminder.  An unknown id is passed over. -/
def cancel (e : Engine) (caller : Bundle) (id : Int32) : Engine :=
  let showing := (e.owned? caller id).filter fun entry => entry.status.isShowing
  let (schedule, removed) := e.schedule.cancel caller id
  let e := { e with schedule }
  let e := if removed then e.persist else e
  match showing with
  | some entry => e.dismiss caller entry.request.notificationId
  | none => e

/-- The reminders of the caller that have not expired. -/
def valid (e : Engine) (caller : Bundle) : List PublishedReminder := e.schedule.valid caller

/-- Cancels all reminders of the caller. -/
def cancelAll (e : Engine) (caller : Bundle) : Engine :=
  let showing := e.schedule.entries.filter fun entry =>
    entry.isOwnedBy caller && entry.status.isShowing
  let e := { e with schedule := (e.schedule.cancelAll caller).1 }.persist
  showing.foldl (fun e entry => e.dismiss caller entry.request.notificationId) e

/-- Puts off a reminder that is on screen. -/
def snooze (e : Engine) (caller : Bundle) (id : Int32) : Attempt Engine (Except Error Unit) :=
  if e.service.isEnabled caller then
    match e.owned? caller id with
    | none => (e, .ok (.error (.invalid (.noReminder id))))
    | some _ =>
        let (schedule, result) := e.schedule.snooze id e.clock
        let e := { e with schedule }
        match result with
        | .error cause => (e, .ok (.error cause))
        | .ok notification =>
            let e := e.persist
            let (service, result) := e.service.publish caller notification e.clock
            ({ e with service }, result)
  else (e, .ok (.error (.notAllowed caller.name)))

/-- Takes a reminder off the screen. -/
def close (e : Engine) (caller : Bundle) (id : Int32) : Attempt Engine (Except Error Unit) :=
  match e.owned? caller id with
  | none => (e, .ok (.error (.invalid (.noReminder id))))
  | some entry =>
      let (schedule, result) := e.schedule.close id e.clock
      let e := { e with schedule }
      match result with
      | .error overflow => (e, .error overflow)
      | .ok (.error cause) => (e, .ok (.error cause))
      | .ok (.ok false) => (e.persist, .ok (.ok ()))
      | .ok (.ok true) =>
          (e.persist.dismiss caller entry.request.notificationId, .ok (.ok ()))

/-! ## Slots of the caller -/

/-- Adds a slot. -/
def addSlot (e : Engine) (caller : Bundle) (argument : SlotArgument) : Except Error Engine :=
  (e.service.addSlot caller argument.slot).map fun service => { e with service }

/-- Adds the slot that a value stands for. -/
def addSlotValue (e : Engine) (caller : Bundle) (value : Json) : Except Error Engine := do
  let argument ← SlotArgument.ofJson value
  e.addSlot caller argument

/-- Drops the slot of a type.  A missing slot is passed over. -/
def removeSlot (e : Engine) (caller : Bundle) (type : SlotType) : Engine :=
  { e with service := (e.service.removeSlot caller type).1 }

/-! ## Ringing -/

/-- Ends the ringing of the reminders with some ids, and gives what is to be shown
of them. -/
def silenceAll (schedule : Schedule) :
    List Int32 → Schedule × List (Bundle × NotificationRequest)
  | [] => (schedule, [])
  | id :: rest =>
      let (silenced, notification) := schedule.silence id
      let shown := match schedule.get? id, notification with
        | some entry, some notification => [(entry.bundle, notification)]
        | _, _ => []
      let (schedule, others) := silenceAll silenced rest
      (schedule, shown ++ others)

/-- Shows some notifications.  One that is refused is passed over. -/
def showAll (service : Service) (now : DateTime) :
    List (Bundle × NotificationRequest) → Attempt Service Unit
  | [] => (service, .ok ())
  | (bundle, notification) :: rest =>
      match service.publish bundle notification now with
      | (service, .error overflow) => (service, .error overflow)
      | (service, .ok _) => showAll service now rest

/-- Lets the reminders ring that are due, and ends the ringing of those that rang
for as long as they may. -/
def tick (e : Engine) (now : DateTime) : Attempt Engine (List Alert) :=
  match e.schedule.fireDue now with
  | (schedule, .error overflow) => ({ e with schedule }, .error overflow)
  | (fired, .ok alerts) =>
      let (schedule, silenced) := silenceAll fired (fired.ringElapsed now)
      let e := { e with schedule }
      let e := if alerts.isEmpty && silenced.isEmpty then e else e.persist
      let shown := alerts.map fun a => (a.bundle, a.notification)
      let (service, result) := showAll e.service now (shown ++ silenced)
      ({ e with service }, result.map fun _ => alerts)

/-- Sets the clock. -/
def setClock (e : Engine) (clock : DateTime) : Engine := { e with clock }

/-- Ticks at once, and then whenever the clock was set.  A tick that overflows is
the last one, but the clock is still set. -/
def runLoop (e : Engine) : List DateTime → Engine
  | [] => (e.tick e.clock).1
  | clock :: rest =>
      match e.tick e.clock with
      | (e, .ok _) => (e.setClock clock).runLoop rest
      | (e, .error _) => (clock :: rest).foldl setClock e

/-- Runs the loop of ticks, for which there has to be something that runs it. -/
def spawnLoop (e : Engine) (hasRunner : Bool) (clocks : List DateTime) : Except Error Engine :=
  if hasRunner then .ok (e.runLoop clocks) else .error .notReady

/-! ## Callbacks -/

/-- What became of an operation with a callback. -/
structure Delivery (α : Type) where
  /-- Whether the operation was started. -/
  spawned : Bool
  /-- What the callback was called with, call by call. -/
  calls : List (Except Error α)

/-- Runs an operation and hands its result to a callback, unless it overflows.
If there is nothing that could run it, the callback is called at once and the
operation does not happen. -/
def withCallback {α : Type} (e : Engine) (hasRunner : Bool)
    (operation : Engine → Attempt Engine (Except Error α)) : Engine × Delivery α :=
  if hasRunner then
    let (e, result) := operation e
    (e, { spawned := true, calls := result.toOption.toList })
  else (e, { spawned := false, calls := [.error .notReady] })

end Engine

end Reminders
