import Reminders.Schedule.Entry

/-!
# The schedule

A *schedule* holds the published reminders of all bundles, in the order in which
they were published, and the id it gave away last.

* `publish` takes a reminder in, if it is valid, has a next ring and there is
  room for it.  Expired reminders that are off the screen first make room.
* `fireDue` lets every reminder ring that is due, in the order of their moments
  and then of their ids.  A reminder that rings hides those of its bundle that
  are shown by the same notification.
* `snooze`, `close` and `silence` say what the user does with a reminder that is
  on screen, or that it rang long enough.
* `refresh` looks for the next rings anew after the clock was set.

An operation that has to find a moment past the last date stops there with an
`Overflow`.  So the reminders that `fireDue` let ring before stay rung, but none
is dropped and no alert is given.
-/

namespace Reminders

/-- The published reminders of all bundles. -/
structure Schedule where
  /-- The id given away last. -/
  lastId : Int32 := 0
  /-- The reminders in the order of publication. -/
  entries : List Entry := []
deriving DecidableEq, Inhabited

/-- A reminder as its owner sees it. -/
structure PublishedReminder where
  /-- The id it was given. -/
  id : Int32
  /-- What was published. -/
  request : ReminderRequest
deriving DecidableEq, Inhabited

namespace Schedule

variable [LocalTime]

/-! ## Views -/

/-- How many reminders there are. -/
def size (s : Schedule) : Nat := s.entries.length

/-- The first reminder with an id. -/
def get? (s : Schedule) (id : Int32) : Option Entry := s.entries.find? fun e => e.id == id

/-- Whether a reminder is one that a bundle has and that has not expired. -/
def isValidFor (bundle : Bundle) (e : Entry) : Bool := !e.expired && e.isOwnedBy bundle

/-- The reminders of a bundle that have not expired, in the order of their ids. -/
def valid (s : Schedule) (bundle : Bundle) : List PublishedReminder :=
  ((s.entries.filter (isValidFor bundle)).map fun e => ⟨e.id, e.request⟩).mergeSort
    fun a b => a.id ≤ b.id

/-- The moment at which a reminder rings next. -/
def nextTrigger? (s : Schedule) : Option DateTime :=
  (s.entries.filterMap fun e => if e.expired then none else e.trigger).min?

/-! ## Dropping reminders -/

/-- The schedule without the reminders that satisfy a test, and how many they were. -/
def drop (s : Schedule) (p : Entry → Bool) : Schedule × Nat :=
  ({ s with entries := s.entries.filter fun e => !p e }, s.entries.countP p)

/-- Drops the expired reminders that are off the screen. -/
def purge (s : Schedule) : Schedule × Nat := s.drop Entry.isOver

/-- Drops the reminders of a bundle with an id, and says whether there was one. -/
def cancel (s : Schedule) (bundle : Bundle) (id : Int32) : Schedule × Bool :=
  let (s, count) := s.drop fun e => e.id == id && e.isOwnedBy bundle
  (s, count ≠ 0)

/-- Drops all reminders of a bundle. -/
def cancelAll (s : Schedule) (bundle : Bundle) : Schedule × Nat :=
  s.drop fun e => e.isOwnedBy bundle

/-! ## Publishing -/

/-- The most reminders there may be. -/
def systemLimit : Nat := 2000

/-- The most reminders of one bundle that have not expired. -/
def bundleLimit : Nat := 30

/-- Whether there is room for a reminder of a bundle. -/
def checkRoom (s : Schedule) (bundle : Bundle) : Except Error Unit :=
  if systemLimit ≤ s.size then .error (.systemFull systemLimit)
  else if bundleLimit ≤ s.entries.countP (isValidFor bundle) then
    .error (.bundleFull bundle.name bundleLimit)
  else .ok ()

/-- The id behind another one.  Behind the greatest comes 1. -/
def idAfter (id : Int32) : Int32 := if id = Int32.maxValue then 1 else id + 1

/-- The schedule with a further reminder, which got the next id. -/
def accept (s : Schedule) (bundle : Bundle) (request : ReminderRequest) (trigger : DateTime) :
    Schedule :=
  let id := idAfter s.lastId
  let entry : Entry :=
    { id, bundle, request
      trigger := some trigger
      status := .active
      expired := false
      snoozesLeft := request.snoozes
      lastShown := none }
  { lastId := id, entries := s.entries ++ [entry] }

/-- Whether a bundle may publish a request at all. -/
def checkRequest (bundle : Bundle) (request : ReminderRequest) : Except Error Unit := do
  bundle.validate
  request.validate

/-- Takes a reminder in and gives it an id. -/
def publish (s : Schedule) (bundle : Bundle) (request : ReminderRequest) (now : DateTime) :
    Attempt Schedule (Except Error Int32) :=
  match checkRequest bundle request with
  | .error e => (s, .ok (.error e))
  | .ok () =>
      let purged := s.purge.1
      match purged.checkRoom bundle with
      | .error e => (purged, .ok (.error e))
      | .ok () =>
          match request.firstTrigger now with
          | .error overflow => (purged, .error overflow)
          | .ok (.error e) => (purged, .ok (.error e))
          | .ok (.ok none) => (purged, .ok (.error .neverRings))
          | .ok (.ok (some trigger)) =>
              let accepted := purged.accept bundle request trigger
              (accepted, .ok (.ok accepted.lastId))

/-! ## Ringing -/

/-- The places of the reminders that are due, in the order in which they ring. -/
def dueAt (s : Schedule) (now : DateTime) : List Nat :=
  ((s.entries.zipIdx.filter fun e => e.1.isDue now).mergeSort
    fun a b => a.1.precedes b.1).map (·.2)

/-- Lets the reminder at a place ring. -/
def ringAt (now : DateTime) (entries : List Entry) (place : Nat) :
    Attempt (List Entry) (Option Alert) :=
  match entries[place]? with
  | none => (entries, .ok none)
  | some e =>
      let (rung, result) := e.rung now
      ((entries.map fun other => other.coveredBy e).set place rung,
        result.map fun _ => some rung.alert)

/-- Lets the reminders at some places ring, one after another. -/
def ringAll (now : DateTime) (entries : List Entry) :
    List Nat → Attempt (List Entry) (List Alert)
  | [] => (entries, .ok [])
  | place :: rest =>
      match ringAt now entries place with
      | (entries, .error overflow) => (entries, .error overflow)
      | (entries, .ok alert) =>
          let (entries, result) := ringAll now entries rest
          (entries, result.map fun alerts => alert.toList ++ alerts)

/-- Lets every reminder ring that is due. -/
def fireDue (s : Schedule) (now : DateTime) : Attempt Schedule (List Alert) :=
  match ringAll now s.entries (s.dueAt now) with
  | (entries, .error overflow) => ({ s with entries }, .error overflow)
  | (entries, .ok alerts) => ({ s with entries }.purge.1, .ok alerts)

/-- The ids of the reminders that have rung for as long as they may. -/
def ringElapsed (s : Schedule) (now : DateTime) : List Int32 :=
  (s.entries.filter fun e => e.hasRungOut now).map Entry.id

/-! ## What the user does -/

/-- Puts an entry in place of the first one with its id. -/
def replaceFirst (entry : Entry) : List Entry → List Entry
  | [] => []
  | e :: rest => if e.id = entry.id then entry :: rest else e :: replaceFirst entry rest

/-- The schedule with an entry in place of the first one with its id. -/
def update (s : Schedule) (entry : Entry) : Schedule :=
  { s with entries := replaceFirst entry s.entries }

/-- The seconds for which a snooze puts a reminder off. -/
def snoozeSeconds (request : ReminderRequest) : Nat :=
  if request.interval = 0 then ReminderRequest.leastInterval else request.interval

/-- Puts off a reminder that is on screen, and renews its notification. -/
def snooze (s : Schedule) (id : Int32) (now : DateTime) : Outcome Schedule NotificationRequest :=
  match s.get? id with
  | none => (s, .error (.invalid (.noReminder id)))
  | some e =>
      if e.status.isShowing then
        match Recurrence.afterSeconds? now (snoozeSeconds e.request) with
        | none => (s, .error (.invalid .snoozeRange))
        | some trigger =>
            let snoozed := { e with trigger := some trigger, status := .snoozed, expired := false }
            (s.update snoozed, .ok (snoozed.notification snoozed.snoozeText))
      else (s, .error (.invalid (.notShowing id)))

/-- Takes a reminder off the screen and moves it to its next ring by kind.  Says
whether it was on screen. -/
def close (s : Schedule) (id : Int32) (now : DateTime) :
    Attempt Schedule (Except Error Bool) :=
  match s.get? id with
  | none => (s, .ok (.error (.invalid (.noReminder id))))
  | some e =>
      if e.status.isShowing then
        let closed := { e with status := .active }
        match closed.request.nextTrigger now with
        | .error overflow => (s.update closed, .error overflow)
        | .ok (.error cause) => (s.update closed, .ok (.error cause))
        | .ok (.ok none) => ((s.update { closed with expired := true }).purge.1, .ok (.ok true))
        | .ok (.ok (some trigger)) =>
            let renewed :=
              { closed with
                trigger := some trigger
                snoozesLeft := closed.request.snoozes
                expired := false }
            ((s.update renewed).purge.1, .ok (.ok true))
      else (s, .ok (.ok false))

/-- Ends the ringing of a reminder that alerts, and renews its notification. -/
def silence (s : Schedule) (id : Int32) : Schedule × Option NotificationRequest :=
  match s.get? id with
  | none => (s, none)
  | some e =>
      if e.status = .showing true then
        let quiet := { e with status := .showing false }
        (s.update quiet, some (quiet.notification quiet.quietText))
      else (s, none)

/-! ## The clock -/

/-- Looks for the next rings anew after the clock was set.  Nobody goes on with a
schedule for which that did not come to its end. -/
def refresh (s : Schedule) (now : DateTime) : Except Overflow Schedule := do
  let entries ← s.entries.mapM fun e => e.refreshed now
  return { s with entries }

end Schedule

end Reminders
