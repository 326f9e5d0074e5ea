import Reminders.Proofs.Notices

/-!
# Runs of an engine

A *call* is what an application, or the loop of ticks, has the engine do, and its
*reply* is what comes back.  Between two calls others use the service, so `others` puts
any service in place of the one that was there.  A claim about a run says what it
expects of others.  `Engine.perform` carries a call out, unless it overflows.

`Engine.Effect` lists the outcomes of the calls, one constructor for each, with what
became of the schedule and of the service.  `perform_effect` is the only place where the
calls are taken apart.

An engine that found nothing stored starts with the empty schedule (`IsNew`), and what a
run of it does to the schedule is a run of the schedule with the same publications
(`Run.history`).  So all that is known of runs of a schedule holds of it.
-/

namespace Reminders

namespace Engine

/-! ## Calls -/

/-- A call of an engine. -/
inductive Call where
  | publish (caller : Bundle) (request : ReminderRequest)
  | cancel (caller : Bundle) (id : Int32)
  | cancelAll (caller : Bundle)
  | valid (caller : Bundle)
  | snooze (caller : Bundle) (id : Int32)
  | close (caller : Bundle) (id : Int32)
  | addSlot (caller : Bundle) (argument : SlotArgument)
  | addSlotValue (caller : Bundle) (value : Json)
  | removeSlot (caller : Bundle) (type : SlotType)
  | tick (now : DateTime)
  | setClock (clock : DateTime)
  /-- Others leave the service behind like this. -/
  | others (service : Service)

/-- What a call gives back. -/
inductive Reply where
  /-- The id of the reminder, or why it was not taken in. -/
  | published (result : Except Error Int32)
  /-- The reminders of the caller. -/
  | listed (reminders : List PublishedReminder)
  /-- Whether it was done, or why it was not. -/
  | done (result : Except Error Unit)
  /-- The reminders that ring. -/
  | rang (alerts : List Alert)

/-- The engine and the reply, if a call on the slots may be refused. -/
def orRefuse (e : Engine) : Except Error Engine → Engine × Reply
  | .ok e' => (e', .done (.ok ()))
  | .error cause => (e, .done (.error cause))

/-- Carries a call out, unless it overflows. -/
def perform [LocalTime] (e : Engine) : Call → Except Overflow (Engine × Reply)
  | .publish caller request => (e.publish caller request).settle .published
  | .cancel caller id => .ok (e.cancel caller id, .done (.ok ()))
  | .cancelAll caller => .ok (e.cancelAll caller, .done (.ok ()))
  | .valid caller => .ok (e, .listed (e.valid caller))
  | .snooze caller id => (e.snooze caller id).settle .done
  | .close caller id => (e.close caller id).settle .done
  | .addSlot caller argument => .ok (e.orRefuse (e.addSlot caller argument))
  | .addSlotValue caller value => .ok (e.orRefuse (e.addSlotValue caller value))
  | .removeSlot caller type => .ok (e.removeSlot caller type, .done (.ok ()))
  | .tick now => (e.tick now).settle .rang
  | .setClock clock => .ok (e.setClock clock, .done (.ok ()))
  | .others service => .ok ({ e with service }, .done (.ok ()))

/-! ## Steps and runs -/

/-- A call that was carried out. -/
structure Step where
  /-- The engine before it. -/
  before : Engine
  /-- What was called. -/
  call : Call
  /-- What came back. -/
  reply : Reply
  /-- The engine behind it. -/
  after : Engine

/-- The steps from one engine to another. -/
inductive Run [LocalTime] (start : Engine) : List Step → Engine → Prop where
  | start : Run start [] start
  | step {steps : List Step} {e e' : Engine} {call : Call} {reply : Reply} :
      Run start steps e → e.perform call = .ok (e', reply) →
      Run start (steps ++ [⟨e, call, reply, e'⟩]) e'

/-- Carries calls out one after the other. -/
def performAll [LocalTime] (e : Engine) : List Call → Except Overflow (List Step × Engine)
  | [] => .ok ([], e)
  | call :: rest => do
      let (e', reply) ← e.perform call
      let (steps, last) ← e'.performAll rest
      return (⟨e, call, reply, e'⟩ :: steps, last)

/-- Calls carried out one after the other are a run. -/
theorem Run.performAll [LocalTime] {start e e' : Engine} {steps steps' : List Step}
    {calls : List Call} (run : Run start steps e) (h : e.performAll calls = .ok (steps', e')) :
    Run start (steps ++ steps') e' := by
  induction calls generalizing steps e steps' with
  | nil =>
    cases h
    rw [List.append_nil]
    exact run
  | cons call rest ih =>
    obtain ⟨⟨e₁, reply⟩, hperform, h⟩ := Except.bind_eq_ok.1 h
    obtain ⟨⟨behind, last⟩, hrest, h⟩ := Except.bind_eq_ok.1 h
    cases h
    have hrun := ih (run.step hperform) hrest
    rw [List.append_assoc] at hrun
    exact hrun

/-- Each call is a step. -/
theorem performAll_calls [LocalTime] {e e' : Engine} {calls : List Call} {steps : List Step}
    (h : e.performAll calls = .ok (steps, e')) : steps.map Step.call = calls := by
  induction calls generalizing e steps with
  | nil =>
    cases h
    rfl
  | cons call rest ih =>
    obtain ⟨⟨e₁, reply⟩, -, h⟩ := Except.bind_eq_ok.1 h
    obtain ⟨⟨behind, last⟩, hrest, h⟩ := Except.bind_eq_ok.1 h
    cases h
    rw [List.map_cons, ih hrest]

/-- The publication of a step, if it is one that was accepted. -/
def Step.publication? (step : Step) : Option Publication :=
  match step.call, step.reply with
  | .publish caller request, .published (.ok id) => some ⟨id, caller, request⟩
  | _, _ => none

/-- The publications of a run, the first one first. -/
def publications (steps : List Step) : List Publication := steps.filterMap Step.publication?

/-- Whether the engine was just started, and nothing was stored. -/
def IsNew (e : Engine) : Prop :=
  ∃ bundle service store clock, start bundle service store clock = .ok (.ok e) ∧
    store.bind Store.content? = none

/-- An engine that was just started, in the kitchen. -/
def kitchen : Engine where
  clock := .first

theorem kitchen_isNew : kitchen.IsNew := ⟨.kitchen, {}, none, .first, by cbv, rfl⟩

/-! ## The outcome of each call -/

/-- Whether a call cancels a reminder. -/
def Call.cancels : Call → Entry → Bool
  | .cancel caller id, x => x.id == id && x.isOwnedBy caller
  | .cancelAll caller, x => x.isOwnedBy caller
  | _, _ => false

/-- The reminders that a call takes from the screen as it cancels them. -/
def dismissedBy (e : Engine) : Call → List Entry
  | .cancel caller id => ((e.owned? caller id).filter fun x => x.status.isShowing).toList
  | .cancelAll caller =>
      e.schedule.entries.filter fun x => x.isOwnedBy caller && x.status.isShowing
  | _ => []

/-- The outcomes of the calls of an engine. -/
inductive Effect [LocalTime] (e : Engine) : Call → Reply → Engine → Prop where
  /-- What cancels nothing may leave reminders and notifications as they are. -/
  | kept {call : Call} {reply : Reply} {e' : Engine} :
      (∀ x, call.cancels x = false) → e'.schedule = e.schedule →
      e'.service.active = e.service.active → Step.publication? ⟨e, call, reply, e'⟩ = none →
      Effect e call reply e'
  | published {caller : Bundle} {request : ReminderRequest} {result : Except Error Int32}
      {e' : Engine} :
      e.schedule.publish caller request e.clock = (e'.schedule, .ok result) →
      e'.service = e.service → Effect e (.publish caller request) (.published result) e'
  | cancelled {caller : Bundle} {id : Int32} {reply : Reply} {e' : Engine} :
      e'.schedule = (e.schedule.cancel caller id).1 →
      e.service.Drops ((e.dismissedBy (.cancel caller id)).map Entry.key) e'.service →
      Effect e (.cancel caller id) reply e'
  | cancelledAll {caller : Bundle} {reply : Reply} {e' : Engine} :
      e'.schedule = (e.schedule.cancelAll caller).1 →
      e.service.Drops ((e.dismissedBy (.cancelAll caller)).map Entry.key) e'.service →
      Effect e (.cancelAll caller) reply e'
  | snoozed {caller : Bundle} {id : Int32} {notification : NotificationRequest}
      {result : Except Error Unit} {x : Entry} {e' : Engine} :
      e.owned? caller id = some x →
      e.schedule.snooze id e.clock = (e'.schedule, .ok notification) →
      e.service.publish caller notification e.clock = (e'.service, .ok result) →
      Effect e (.snooze caller id) (.done result) e'
  | closed {caller : Bundle} {id : Int32} {reply : Reply} {x : Entry} {e' : Engine} :
      e.owned? caller id = some x →
      e.schedule.close id e.clock = (e'.schedule, .ok (.ok true)) →
      e.service.Drops [x.key] e'.service → Effect e (.close caller id) reply e'
  /-- The reminder left the screen, but not its notification. -/
  | closeFailed {caller : Bundle} {id : Int32} {cause : Error} {reply : Reply} {x : Entry}
      {e' : Engine} :
      e.owned? caller id = some x →
      e.schedule.close id e.clock = (e'.schedule, .ok (.error cause)) →
      e'.service = e.service → Effect e (.close caller id) reply e'
  | ticked {now : DateTime} {fired : Schedule} {alerts : List Alert}
      {silenced : List (Bundle × NotificationRequest)} {e' : Engine} :
      e.schedule.fireDue now = (fired, .ok alerts) →
      silenceAll fired (fired.ringElapsed now) = (e'.schedule, silenced) →
      showAll e.service now (alerts.map (fun a => (a.bundle, a.notification)) ++ silenced) =
        (e'.service, .ok ()) →
      Effect e (.tick now) (.rang alerts) e'
  | others {service : Service} {reply : Reply} :
      Effect e (.others service) reply { e with service }

variable {e e' : Engine} {caller : Bundle}

@[simp] theorem persist_schedule (e : Engine) : e.persist.schedule = e.schedule := by
  rw [persist]
  split
  · rfl
  · split <;> rfl

@[simp] theorem persist_service (e : Engine) : e.persist.service = e.service := by
  rw [persist]
  split
  · rfl
  · split <;> rfl

@[simp] theorem persist_clock (e : Engine) : e.persist.clock = e.clock := by
  rw [persist]
  split
  · rfl
  · split <;> rfl

theorem owned?_eq_some {id : Int32} {x : Entry} :
    e.owned? caller id = some x ↔ e.schedule.get? id = some x ∧ x.isOwnedBy caller := by
  simp [owned?, Option.filter_eq_some_iff]

/-- A cancel dismisses the notification of a reminder on screen, and of no other. -/
theorem mem_dismissedBy_cancel {id : Int32} {x : Entry} :
    x ∈ e.dismissedBy (.cancel caller id) ↔
      e.schedule.get? id = some x ∧ x.isOwnedBy caller ∧ x.status.isShowing := by
  simp [dismissedBy, Option.filter_eq_some_iff, owned?_eq_some, and_assoc]

theorem mem_dismissedBy_cancelAll {x : Entry} :
    x ∈ e.dismissedBy (.cancelAll caller) ↔
      x ∈ e.schedule.entries ∧ x.isOwnedBy caller ∧ x.status.isShowing := by
  simp [dismissedBy]

/-- Publishing checks the permission, publishes in the schedule, and saves what was taken in. -/
theorem publish_effect [LocalTime] {request : ReminderRequest} {result : Except Error Int32}
    (h : e.publish caller request = (e', .ok result)) :
    e.Effect (.publish caller request) (.published result) e' := by
  rw [publish] at h
  split at h
  case isTrue =>
    simp only at h
    split at h
    case h_1 hresult =>
      obtain ⟨rfl, hresult'⟩ := Prod.mk.inj h
      refine .published ?_ (by simp)
      rw [persist_schedule, ← hresult']
    case h_2 =>
      obtain ⟨rfl, hresult'⟩ := Prod.mk.inj h
      refine .published ?_ rfl
      rw [← hresult']
  case isFalse =>
    cases h
    exact .kept (fun _ => rfl) rfl rfl rfl

/-- Cancelling drops the reminder first, and then dismisses it if it was on screen. -/
theorem exists_cancelled (e : Engine) (caller : Bundle) (id : Int32) :
    ∃ dropped : Engine, dropped.schedule = (e.schedule.cancel caller id).1 ∧
      dropped.service = e.service ∧ e.cancel caller id =
        match (e.owned? caller id).filter fun x => x.status.isShowing with
        | some x => dropped.dismiss caller x.request.notificationId
        | none => dropped := by
  refine ⟨_, ?_, ?_, rfl⟩
  · split
    · exact persist_schedule _
    · rfl
  · split
    · exact persist_service _
    · rfl

/-- A cancel drops the reminder and dismisses its notification, if that is on screen. -/
theorem cancel_effect [LocalTime] (e : Engine) (caller : Bundle) (id : Int32) (reply : Reply) :
    e.Effect (.cancel caller id) reply (e.cancel caller id) := by
  obtain ⟨dropped, hschedule, hservice, hcancel⟩ := e.exists_cancelled caller id
  rw [hcancel]
  split
  case h_1 x hx =>
    have howned := (owned?_eq_some.1 (Option.filter_eq_some_iff.1 hx).1).2
    refine .cancelled (by rw [dismiss_schedule, hschedule]) ?_
    rw [dismissedBy, hx, ← hservice, Option.toList_some, List.map_singleton,
      Entry.key_of_isOwnedBy howned]
    exact dropped.dismiss_drops caller _
  case h_2 hx =>
    refine .cancelled hschedule ?_
    rw [dismissedBy, hx]
    exact .of_active_eq (by rw [hservice])

theorem cancelAll_effect [LocalTime] (e : Engine) (caller : Bundle) (reply : Reply) :
    e.Effect (.cancelAll caller) reply (e.cancelAll caller) := by
  rw [cancelAll]
  refine .cancelledAll ?_ ?_
  · rw [foldl_dismiss_schedule, persist_schedule]
  · have howned : ∀ x ∈ e.dismissedBy (.cancelAll caller), x.isOwnedBy caller :=
      fun x hx => (mem_dismissedBy_cancelAll.1 hx).2.1
    have hdrops := foldl_dismiss_drops
      { e with schedule := (e.schedule.cancelAll caller).1 }.persist howned
    rw [persist_service] at hdrops
    exact hdrops

/-- A snooze changes nothing, or it puts a reminder of the caller off and shows it anew, as far as
the service lets it. -/
theorem snooze_cases [LocalTime] {id : Int32} {result : Except Error Unit}
    (h : e.snooze caller id = (e', .ok result)) :
    e' = e ∨ ∃ x notification, e.service.isEnabled caller ∧ e.owned? caller id = some x ∧
      e.schedule.snooze id e.clock = (e'.schedule, .ok notification) ∧
      e.service.publish caller notification e.clock = (e'.service, .ok result) := by
  rw [snooze] at h
  split at h
  case isTrue henabled =>
    split at h
    case h_1 =>
      cases h
      exact .inl rfl
    case h_2 x howned =>
      simp only at h
      split at h
      case h_1 hcause =>
        cases h
        have hsame : (e.schedule.snooze id e.clock).1 = e.schedule :=
          Schedule.snooze_refused (Prod.ext rfl hcause)
        left
        rw [hsame]
      case h_2 notification hnotification =>
        obtain ⟨rfl, hresult⟩ := Prod.mk.inj h
        rw [persist_service, persist_clock] at hresult ⊢
        refine .inr ⟨x, notification, henabled, howned, Prod.ext ?_ hnotification,
          Prod.ext rfl hresult⟩
        exact (persist_schedule { e with schedule := (e.schedule.snooze id e.clock).1 }).symm
  case isFalse =>
    cases h
    exact .inl rfl

/-- A snooze is refused, or puts the reminder off and then publishes its notification anew. -/
theorem snooze_effect [LocalTime] {id : Int32} {result : Except Error Unit}
    (h : e.snooze caller id = (e', .ok result)) :
    e.Effect (.snooze caller id) (.done result) e' := by
  obtain rfl | ⟨x, notification, -, howned, hsnooze, hpublish⟩ := snooze_cases h
  · exact .kept (fun _ => rfl) rfl rfl rfl
  · exact .snoozed howned hsnooze hpublish

/-- Closing what is not on screen changes nothing. -/
theorem close_offScreen {s s' : Schedule} {id : Int32} {now : DateTime}
    (h : s.close id now = (s', .ok (.ok false))) : s' = s := by
  rw [Schedule.close] at h
  split at h
  case h_1 => cases h
  case h_2 =>
    split at h
    case isTrue =>
      simp only at h
      split at h <;> cases h
    case isFalse =>
      cases h
      rfl

/-- A close dismisses the notification of the reminder that it took from the screen. -/
theorem close_effect [LocalTime] {id : Int32} {result : Except Error Unit}
    (h : e.close caller id = (e', .ok result)) :
    e.Effect (.close caller id) (.done result) e' := by
  rw [close] at h
  split at h
  case h_1 =>
    cases h
    exact .kept (fun _ => rfl) rfl rfl rfl
  case h_2 x howned =>
    simp only at h
    split at h
    case h_1 => cases h
    case h_2 cause hcause =>
      cases h
      exact .closeFailed howned (Prod.ext rfl hcause) rfl
    case h_3 hfalse =>
      cases h
      refine .kept (fun _ => rfl) ?_ (by rw [persist_service]) rfl
      rw [persist_schedule]
      exact close_offScreen (Prod.ext rfl hfalse)
    case h_4 htrue =>
      cases h
      refine .closed howned (Prod.ext ?_ htrue) ?_
      · rw [dismiss_schedule, persist_schedule]
      · rw [Entry.key_of_isOwnedBy (owned?_eq_some.1 howned).2]
        have hdrops := dismiss_drops { e with schedule := (e.schedule.close id e.clock).1 }.persist
          caller x.request.notificationId
        rw [persist_service] at hdrops
        exact hdrops

theorem addSlot_effect {argument : SlotArgument} (h : e.addSlot caller argument = .ok e') :
    e'.schedule = e.schedule ∧ e'.service.active = e.service.active := by
  obtain ⟨service, hadd, rfl⟩ := Except.map_eq_ok.1 h
  obtain ⟨_, -, rfl⟩ := Except.map_eq_ok.1 hadd
  exact ⟨rfl, rfl⟩

/-- What touches neither the schedule nor a notification leaves both alone, refused or not. -/
theorem orRefuse_effect [LocalTime] {result : Except Error Engine} {call : Call}
    (hcall : ∀ x, call.cancels x = false) (h : ∀ e', result = .ok e' → e'.schedule = e.schedule ∧
      e'.service.active = e.service.active) :
    e.Effect call (e.orRefuse result).2 (e.orRefuse result).1 := by
  cases result with
  | error cause => exact .kept hcall rfl rfl (by cases call <;> rfl)
  | ok e' => exact .kept hcall (h e' rfl).1 (h e' rfl).2 (by cases call <;> rfl)

/-- A tick that comes to its end lets reminders ring, ends the ringing of others, and shows
what came of both. -/
theorem tick_phases [LocalTime] {now : DateTime} {alerts : List Alert}
    (h : e.tick now = (e', .ok alerts)) :
    ∃ fired silenced, e.schedule.fireDue now = (fired, .ok alerts) ∧
      silenceAll fired (fired.ringElapsed now) = (e'.schedule, silenced) ∧
      showAll e.service now (alerts.map (fun a => (a.bundle, a.notification)) ++ silenced) =
        (e'.service, .ok ()) := by
  rw [tick] at h
  split at h
  case h_1 => cases h
  case h_2 fired given hfire =>
    simp only [apply_ite Engine.schedule, apply_ite Engine.service, persist_schedule,
      persist_service, ite_self] at h
    obtain ⟨rfl, hresult⟩ := Prod.mk.inj h
    obtain ⟨_, hshown, rfl⟩ := Except.map_eq_ok.1 hresult
    exact ⟨fired, _, hfire, rfl, Prod.ext rfl hshown⟩

/-- A tick lets ring what is due, shows it, and silences what has rung long enough. -/
theorem tick_effect [LocalTime] {now : DateTime} {alerts : List Alert}
    (h : e.tick now = (e', .ok alerts)) : e.Effect (.tick now) (.rang alerts) e' := by
  obtain ⟨_, _, hfire, hsilence, hshown⟩ := tick_phases h
  exact .ticked hfire hsilence hshown

/-- Whatever the call, one that comes to its end has one of the effects above. -/
theorem perform_effect [LocalTime] {call : Call} {reply : Reply}
    (h : e.perform call = .ok (e', reply)) :
    e.Effect call reply e' := by
  cases call with
  | publish caller request =>
    obtain ⟨result, hpublish, rfl⟩ := Attempt.settle_eq_ok.1 h
    exact publish_effect hpublish
  | cancel caller id =>
    cases h
    exact cancel_effect e caller id _
  | cancelAll caller =>
    cases h
    exact cancelAll_effect e caller _
  | valid caller =>
    cases h
    exact .kept (fun _ => rfl) rfl rfl rfl
  | snooze caller id =>
    obtain ⟨result, hsnooze, rfl⟩ := Attempt.settle_eq_ok.1 h
    exact snooze_effect hsnooze
  | close caller id =>
    obtain ⟨result, hclose, rfl⟩ := Attempt.settle_eq_ok.1 h
    exact close_effect hclose
  | addSlot caller argument =>
    obtain ⟨rfl, rfl⟩ := Prod.mk.inj (Except.ok.inj h)
    exact orRefuse_effect (fun _ => rfl) fun _ => addSlot_effect
  | addSlotValue caller value =>
    obtain ⟨rfl, rfl⟩ := Prod.mk.inj (Except.ok.inj h)
    refine orRefuse_effect (fun _ => rfl) fun _ hadd => ?_
    obtain ⟨argument, -, hadd⟩ := Except.bind_eq_ok.1 hadd
    exact addSlot_effect hadd
  | removeSlot caller type =>
    cases h
    exact .kept (fun _ => rfl) rfl rfl rfl
  | tick now =>
    obtain ⟨alerts, htick, rfl⟩ := Attempt.settle_eq_ok.1 h
    exact tick_effect htick
  | setClock clock =>
    cases h
    exact .kept (fun _ => rfl) rfl rfl rfl
  | others service =>
    cases h
    exact .others

/-! ## The schedule of a run -/

/-- An engine without a stored schedule starts with the empty one. -/
theorem IsNew.schedule_eq (h : e.IsNew) : e.schedule = {} := by
  obtain ⟨bundle, service, store, clock, hstart, hstored⟩ := h
  rw [start] at hstart
  split at hstart
  case h_1 => cases hstart
  case h_2 =>
    obtain ⟨restored, hrestored, h⟩ := Except.bind_eq_ok.1 hstart
    obtain ⟨schedule, hschedule, rfl⟩ := Except.map_eq_ok.1 (Except.ok.inj h)
    subst hschedule
    cases store with
    | none =>
      cases hrestored
      rfl
    | some place =>
      cases place with
      | missing =>
        cases hrestored
        rfl
      | text content => cases hstored
      | binary => cases hrestored
      | directory => cases hrestored
      | blocked => cases hrestored

/-- Ending the ringing of reminders is a run that publishes nothing and sets no clock. -/
theorem history_silenceAll [LocalTime] {start s s' : Schedule} {history : List Reminders.Step}
    {ids : List Int32} {silenced : List (Bundle × NotificationRequest)}
    (run : Reminders.Run start history s) (h : silenceAll s ids = (s', silenced)) :
    ∃ more, Reminders.Run start (history ++ more) s' ∧ Reminders.publications more = [] ∧
      ClockKept more := by
  induction ids generalizing s history silenced with
  | nil =>
    cases h
    refine ⟨[], ?_, rfl, by simp [ClockKept]⟩
    rw [List.append_nil]
    exact run
  | cons id rest ih =>
    obtain ⟨rfl, -⟩ := Prod.mk.inj h
    have hperform : s.perform (.silence id) =
        .ok ((s.silence id).1, .silenced (s.silence id).2) := rfl
    obtain ⟨more, hmore, hnone, hkept⟩ := ih (run.step hperform) rfl
    rw [List.append_assoc] at hmore
    exact ⟨_, hmore, hnone, List.forall_mem_cons.2 ⟨by simp, hkept⟩⟩

theorem history_perform [LocalTime] {start s s' : Schedule} {history : List Reminders.Step}
    {operation : Operation} {answer : Answer} (run : Reminders.Run start history s)
    (h : s.perform operation = .ok (s', answer)) (hkept : ∀ now, operation ≠ .refresh now) :
    ∃ more, Reminders.Run start (history ++ more) s' ∧ Reminders.publications more =
      (Reminders.Step.publication? ⟨s, operation, answer, s'⟩).toList ∧ ClockKept more := by
  refine ⟨[⟨s, operation, answer, s'⟩], run.step h, ?_, by simpa [ClockKept] using hkept⟩
  rw [← List.nil_append [_], publications_append]
  rfl

/-- What a call does to the schedule is a run of the schedule that sets no clock. -/
theorem Effect.history [LocalTime] {start : Schedule} {call : Call} {reply : Reply}
    {history : List Reminders.Step} (h : e.Effect call reply e')
    (run : Reminders.Run start history e.schedule) :
    ∃ more, Reminders.Run start (history ++ more) e'.schedule ∧
      Reminders.publications more = (Step.publication? ⟨e, call, reply, e'⟩).toList ∧
      ClockKept more := by
  cases h with
  | kept _ hschedule _ hnone =>
    refine ⟨[], ?_, by rw [hnone]; rfl, by simp [ClockKept]⟩
    rw [List.append_nil, hschedule]
    exact run
  | @published caller request result _ hpublish _ =>
    have hperform : e.schedule.perform (.publish caller request e.clock) =
        .ok (e'.schedule, .published result) := by
      rw [Schedule.perform, hpublish]
      rfl
    obtain ⟨more, hmore, hpublications, hkept⟩ := history_perform run hperform (by simp)
    refine ⟨more, hmore, hpublications.trans ?_, hkept⟩
    cases result <;> rfl
  | @cancelled caller id _ _ hschedule _ =>
    rw [hschedule]
    have hperform : e.schedule.perform (.cancel caller id) = .ok (_, _) := rfl
    exact history_perform run hperform (by simp)
  | @cancelledAll caller _ _ hschedule _ =>
    rw [hschedule]
    have hperform : e.schedule.perform (.cancelAll caller) = .ok (_, _) := rfl
    exact history_perform run hperform (by simp)
  | @snoozed caller id notification _ _ _ _ hsnooze _ =>
    have hperform : e.schedule.perform (.snooze id e.clock) =
        .ok (e'.schedule, .snoozed (.ok notification)) := by rw [Schedule.perform, hsnooze]
    exact history_perform run hperform (by simp)
  | @closed caller id _ _ _ _ hclose _ =>
    have hperform : e.schedule.perform (.close id e.clock) =
        .ok (e'.schedule, .closed (.ok true)) := by
      rw [Schedule.perform, hclose]
      rfl
    exact history_perform run hperform (by simp)
  | @closeFailed caller id cause _ _ _ _ hclose _ =>
    have hperform : e.schedule.perform (.close id e.clock) =
        .ok (e'.schedule, .closed (.error cause)) := by
      rw [Schedule.perform, hclose]
      rfl
    exact history_perform run hperform (by simp)
  | @ticked now fired alerts _ _ hfire hsilence _ =>
    have hperform : e.schedule.perform (.fireDue now) = .ok (fired, .rang alerts) := by
      rw [Schedule.perform, hfire]
      rfl
    obtain ⟨more, hmore, hnone, hkept⟩ := history_silenceAll (run.step hperform) hsilence
    rw [List.append_assoc] at hmore
    refine ⟨_, hmore, ?_, List.forall_mem_cons.2 ⟨by simp, hkept⟩⟩
    rw [Reminders.publications, List.filterMap_append]
    exact hnone
  | others =>
    refine ⟨[], ?_, rfl, by simp [ClockKept]⟩
    rw [List.append_nil]
    exact run

theorem publications_append_step (steps : List Step) (step : Step) :
    publications (steps ++ [step]) = publications steps ++ step.publication?.toList := by
  rw [publications, List.filterMap_append]
  cases h : step.publication? <;> simp [publications, h]

/-- The schedule of a run was reached by a run of the schedule with the same publications,
which sets no clock. -/
theorem Run.history_clockKept [LocalTime] {start e : Engine} {steps : List Step} (new : start.IsNew)
    (run : Run start steps e) :
    ∃ history, Reminders.Run {} history e.schedule ∧
      Reminders.publications history = publications steps ∧ ClockKept history := by
  induction run with
  | start =>
    refine ⟨[], ?_, rfl, by simp [ClockKept]⟩
    rw [new.schedule_eq]
    exact .start
  | step _ hperform ih =>
    obtain ⟨history, hrun, hpublications, hkept⟩ := ih
    obtain ⟨more, hmore, hnext, hkept'⟩ := (perform_effect hperform).history hrun
    refine ⟨history ++ more, hmore, ?_, List.forall_mem_append.2 ⟨hkept, hkept'⟩⟩
    rw [publications_append_step, ← hpublications, ← hnext, Reminders.publications,
      List.filterMap_append]
    rfl

/-- A run of calls is a run of the schedule, with the same publications. -/
theorem Run.history [LocalTime] {start e : Engine} {steps : List Step} (new : start.IsNew)
    (run : Run start steps e) :
    ∃ history, Reminders.Run {} history e.schedule ∧
      Reminders.publications history = publications steps := by
  obtain ⟨history, hrun, hpublications, -⟩ := run.history_clockKept new
  exact ⟨history, hrun, hpublications⟩

end Engine

end Reminders
