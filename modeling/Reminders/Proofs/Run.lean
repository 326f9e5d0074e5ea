import Reminders.Proofs.Validity

/-!
# Runs of a schedule

An *operation* is a call of the schedule with its arguments, and its *answer* is
what the caller gets.  `Schedule.perform` carries an operation out.  It gives
nothing when the operation overflows, and a refusal is an answer like any other.

A *run* is a list of steps from one schedule to another.  Each step records the
operation and its answer with the schedule before and behind it.  Neither the
order of the operations nor that of the times in them is bounded.

A *publication* is what an accepted publishing makes known: the id, the bundle
and the request.  The publications of a run stand in the order in which they were
accepted.

The kitchen at the end is a bundle with a few timers, for runs that are written out.  The
cellar is another one.
-/

namespace Reminders

/-! ## Operations -/

/-- A call of the schedule. -/
inductive Operation where
  | publish (bundle : Bundle) (request : ReminderRequest) (now : DateTime)
  | cancel (bundle : Bundle) (id : Int32)
  | cancelAll (bundle : Bundle)
  | fireDue (now : DateTime)
  | snooze (id : Int32) (now : DateTime)
  | close (id : Int32) (now : DateTime)
  | silence (id : Int32)
  | refresh (now : DateTime)
  | purge
deriving DecidableEq

/-- What an operation answers. -/
inductive Answer where
  /-- The id of the reminder, or why it was not taken in. -/
  | published (result : Except Error Int32)
  /-- Whether there was a reminder to cancel. -/
  | cancelled (found : Bool)
  /-- How many reminders were dropped. -/
  | dropped (count : Nat)
  /-- The reminders that ring. -/
  | rang (alerts : List Alert)
  /-- The renewed notification, or why there is none. -/
  | snoozed (result : Except Error NotificationRequest)
  /-- Whether the reminder was on screen. -/
  | closed (result : Except Error Bool)
  /-- The renewed notification, if the reminder was alerting. -/
  | silenced (notification : Option NotificationRequest)
  /-- Nothing. -/
  | refreshed

/-- An attempt that came to its end, with its answer read by a function. -/
def Attempt.settle {σ α β : Type} (a : Attempt σ α) (f : α → β) : Except Overflow (σ × β) :=
  a.2.map fun answer => (a.1, f answer)

theorem Attempt.settle_eq_ok {σ α β : Type} {a : Attempt σ α} {f : α → β} {s : σ} {b : β} :
    a.settle f = .ok (s, b) ↔ ∃ answer, a = (s, .ok answer) ∧ f answer = b := by
  obtain ⟨s', _ | answer⟩ := a
  · simp [settle, Except.map]
  · simp only [settle, Except.map, Except.ok.injEq, Prod.mk.injEq]
    constructor
    · rintro ⟨rfl, rfl⟩
      exact ⟨answer, ⟨rfl, rfl⟩, rfl⟩
    · rintro ⟨_, ⟨rfl, rfl⟩, rfl⟩
      exact ⟨rfl, rfl⟩

/-- Carries an operation out, unless it overflows. -/
def Schedule.perform [LocalTime] (s : Schedule) : Operation → Except Overflow (Schedule × Answer)
  | .publish bundle request now => (s.publish bundle request now).settle .published
  | .cancel bundle id => .ok ((s.cancel bundle id).1, .cancelled (s.cancel bundle id).2)
  | .cancelAll bundle => .ok ((s.cancelAll bundle).1, .dropped (s.cancelAll bundle).2)
  | .fireDue now => (s.fireDue now).settle .rang
  | .snooze id now => .ok ((s.snooze id now).1, .snoozed (s.snooze id now).2)
  | .close id now => (s.close id now).settle .closed
  | .silence id => .ok ((s.silence id).1, .silenced (s.silence id).2)
  | .refresh now => (s.refresh now).map fun s => (s, .refreshed)
  | .purge => .ok (s.purge.1, .dropped s.purge.2)

/-! ## Steps and runs -/

/-- An operation that was carried out. -/
structure Step where
  /-- The schedule before it. -/
  before : Schedule
  /-- What was called. -/
  operation : Operation
  /-- What it answered. -/
  answer : Answer
  /-- The schedule behind it. -/
  after : Schedule

/-- The steps from one schedule to another. -/
inductive Run [LocalTime] (start : Schedule) : List Step → Schedule → Prop where
  | start : Run start [] start
  | step {steps : List Step} {s s' : Schedule} {operation : Operation} {answer : Answer} :
      Run start steps s → s.perform operation = .ok (s', answer) →
      Run start (steps ++ [⟨s, operation, answer, s'⟩]) s'

/-- Carries operations out one after the other. -/
def Schedule.performAll [LocalTime] (s : Schedule) :
    List Operation → Except Overflow (List Step × Schedule)
  | [] => .ok ([], s)
  | operation :: rest => do
      let (s', answer) ← s.perform operation
      let (steps, last) ← s'.performAll rest
      return (⟨s, operation, answer, s'⟩ :: steps, last)

/-- Operations carried out one after the other are a run. -/
theorem Run.performAll [LocalTime] {start s s' : Schedule} {steps steps' : List Step}
    {operations : List Operation} (run : Run start steps s)
    (h : s.performAll operations = .ok (steps', s')) : Run start (steps ++ steps') s' := by
  induction operations generalizing steps s steps' with
  | nil =>
    cases h
    rw [List.append_nil]
    exact run
  | cons operation rest ih =>
    obtain ⟨⟨s₁, answer⟩, hperform, h⟩ := Except.bind_eq_ok.1 h
    obtain ⟨⟨behind, last⟩, hrest, h⟩ := Except.bind_eq_ok.1 h
    cases h
    have hrun := ih (run.step hperform) hrest
    rw [List.append_assoc] at hrun
    exact hrun

/-! ## Publications -/

/-- What an accepted publishing makes known. -/
structure Publication where
  /-- The id that was given away. -/
  id : Int32
  /-- Who published. -/
  bundle : Bundle
  /-- What was published. -/
  request : ReminderRequest
deriving DecidableEq

/-- The publication that an entry stems from. -/
def Entry.publication (e : Entry) : Publication := ⟨e.id, e.bundle, e.request⟩

/-- The publication of a step, if it is one that was accepted. -/
def Step.publication? (step : Step) : Option Publication :=
  match step.operation, step.answer with
  | .publish bundle request _, .published (.ok id) => some ⟨id, bundle, request⟩
  | _, _ => none

/-- The publications of a run, the first one first. -/
def publications (steps : List Step) : List Publication := steps.filterMap Step.publication?

/-! ## A kitchen -/

/-- The moment some seconds after the first one. -/
def DateTime.sinceFirst (seconds : Nat) : DateTime := (first.later? seconds).getD first

/-- A bundle that counts minutes down. -/
def Bundle.kitchen : Bundle where
  name := "kitchen"

/-- Another bundle. -/
def Bundle.cellar : Bundle where
  name := "cellar"

/-- A request to ring once after a minute. -/
def ReminderRequest.minute : ReminderRequest where
  kind := .timer 60
  notificationId := 7

/-- A timer of the kitchen that is due at the first moment. -/
def Entry.kettle (id : Int32) : Entry where
  id := id
  bundle := .kitchen
  request := .minute
  trigger := some .first
  status := .active
  expired := false
  snoozesLeft := 0
  lastShown := none

/-- Two kettles that are due, one on screen that is over, and one that waits. -/
def Schedule.kettles : Schedule where
  lastId := 4
  entries := [.kettle 2, .kettle 1,
    { Entry.kettle 3 with
      trigger := none, status := .showing true, expired := true, lastShown := some .first },
    { Entry.kettle 4 with trigger := DateTime.first.later? 60 }]

end Reminders
