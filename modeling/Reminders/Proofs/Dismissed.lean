import Reminders.Proofs.Recurring
import Reminders.Proofs.Refused

/-!
# What a refused dismissal leaves behind

A snooze looks for the next ring first and changes the reminder only when it has found it.  So a
refused snooze changes nothing.  A dismissal goes the other way.  It takes the reminder off the
screen, and then looks for the next ring.

That is refused for a calendar reminder that repeats from a date time that does not exist, such as
one on February 30 (`ReminderKind.RepeatsFromNowhere`).  Then the reminder is off the screen all
the same.  In all other cases a refused dismissal changes nothing (`refused_unchanged_iff`).

No such request is accepted, so a run that starts with valid requests never comes upon one
(`Run.request_valid`).  But a stored schedule is not checked when it is loaded, and may well hold
one (`not_refused_unchanged`).
-/

namespace Reminders

/-! ## Repeating from nowhere -/

namespace ReminderKind

/-- Whether a kind repeats from a date time that does not exist. -/
inductive RepeatsFromNowhere : ReminderKind → LocalDateTime → Prop where
  | calendar {dateTime : LocalDateTime} {months days : List UInt8} :
      (calendar dateTime months days).Recurs → dateTime.toDateTime? = none →
      RepeatsFromNowhere (.calendar dateTime months days) dateTime

variable {kind : ReminderKind} {dateTime : LocalDateTime} {now : DateTime} {cause : Error}

theorem RepeatsFromNowhere.recurs (h : kind.RepeatsFromNowhere dateTime) : kind.Recurs := by
  cases h with
  | calendar recurs _ => exact recurs

/-- No trigger can be computed for such a kind. -/
theorem RepeatsFromNowhere.trigger (h : kind.RepeatsFromNowhere dateTime) (now : DateTime) :
    kind.trigger now = .ok (.error (.invalid (.localDateTime dateTime))) := by
  cases h with
  | calendar _ hnone =>
    rw [ReminderKind.trigger, LocalDateTime.toDateTime, hnone]
    rfl

theorem RepeatsFromNowhere.not_valid (h : kind.RepeatsFromNowhere dateTime) :
    kind.validate ≠ .ok () :=
  fun valid => trigger_ne_error valid .first _ (h.trigger .first)

/-- The search for the next ring of a kind that recurs fails only for want of a date time. -/
theorem repeatsFromNowhere_of_trigger (recurs : kind.Recurs)
    (h : kind.trigger now = .ok (.error cause)) :
    ∃ dateTime, kind.RepeatsFromNowhere dateTime ∧ cause = .invalid (.localDateTime dateTime) := by
  cases kind with
  | timer => exact recurs.elim
  | calendar dateTime months days =>
    rw [ReminderKind.trigger, LocalDateTime.toDateTime] at h
    split at h
    case h_1 => cases h
    case h_2 hnone =>
      cases h
      exact ⟨dateTime, .calendar recurs hnone, rfl⟩
  | alarm hour minute weekdays =>
    obtain ⟨next, -, hnext⟩ := Except.map_eq_ok.1 h
    cases hnext

end ReminderKind

/-- The next trigger fails for the requests of this kind, and for no other. -/
theorem ReminderRequest.nextTrigger_eq_error_iff {r : ReminderRequest} {now : DateTime}
    {cause : Error} : r.nextTrigger now = .ok (.error cause) ↔
      ∃ dateTime, r.kind.RepeatsFromNowhere dateTime ∧
        cause = .invalid (.localDateTime dateTime) := by
  constructor
  · intro h
    rw [nextTrigger] at h
    split at h
    case isTrue hrepeats =>
      exact ReminderKind.repeatsFromNowhere_of_trigger
        (ReminderKind.repeats_iff_recurs.1 hrepeats) h
    case isFalse => cases h
  · rintro ⟨dateTime, hnowhere, rfl⟩
    rw [nextTrigger, if_pos (ReminderKind.repeats_of_recurs hnowhere.recurs)]
    exact hnowhere.trigger now

/-- The entry once it left the screen. -/
def Entry.offScreen (e : Entry) : Entry := { e with status := .active }

theorem Entry.offScreen_ne {e : Entry} (hshowing : e.status.isShowing) : e.offScreen ≠ e := by
  intro hsame
  have hstatus : .active = e.status := congrArg Entry.status hsame
  rw [← hstatus] at hshowing
  cases hshowing

namespace Schedule

variable {s s' : Schedule} {id : Int32} {now : DateTime} {e : Entry} {dateTime : LocalDateTime}
  {cause : Error}

/-! ## Refused calls -/

/-- Whether the reminder with an id is on screen and repeats from a date time that does not
exist. -/
def ShowsFromNowhere (s : Schedule) (id : Int32) : Prop :=
  ∃ e dateTime, s.get? id = some e ∧ e.status.isShowing ∧
    e.request.kind.RepeatsFromNowhere dateTime

theorem not_showsFromNowhere (valid : ∀ e ∈ s.entries, e.request.validate = .ok ()) :
    ¬ s.ShowsFromNowhere id := by
  rintro ⟨e, dateTime, hget, -, hnowhere⟩
  exact hnowhere.not_valid (ReminderRequest.kind_valid (valid e (mem_of_get? hget)))

/-- A dismissal is refused for want of a reminder, or of a date time to repeat from. -/
theorem close_refused (h : s.close id now = (s', .ok (.error cause))) :
    (s' = s ∧ s.get? id = none ∧ cause = .invalid (.noReminder id)) ∨ s.ShowsFromNowhere id := by
  rw [close] at h
  split at h
  case h_1 hnone =>
    cases h
    exact .inl ⟨rfl, hnone, rfl⟩
  case h_2 e hget =>
    split at h
    case isTrue hshowing =>
      simp only at h
      split at h
      case h_1 => cases h
      case h_2 cause' hnext =>
        obtain ⟨dateTime, hnowhere, -⟩ := ReminderRequest.nextTrigger_eq_error_iff.1 hnext
        exact .inr ⟨e, dateTime, hget, hshowing, hnowhere⟩
      case h_3 => cases h
      case h_4 => cases h
    case isFalse => cases h

/-- In the latter case the reminder leaves the screen, and nothing else changes. -/
theorem close_fromNowhere (hget : s.get? id = some e) (hshowing : e.status.isShowing)
    (hnowhere : e.request.kind.RepeatsFromNowhere dateTime) (now : DateTime) :
    s.close id now = (s.update e.offScreen,
      .ok (.error (.invalid (.localDateTime dateTime)))) := by
  have hnext : e.request.nextTrigger now = .ok (.error (.invalid (.localDateTime dateTime))) :=
    ReminderRequest.nextTrigger_eq_error_iff.2 ⟨dateTime, hnowhere, rfl⟩
  rw [close, hget]
  simp only [hshowing, if_true, hnext]
  rfl

/-- The update of an entry that changes is a change of the schedule. -/
theorem update_ne {changed : Entry} (hget : s.get? id = some e) (hid : changed.id = e.id)
    (hne : changed ≠ e) : s.update changed ≠ s := by
  intro hsame
  have hfound : e.id = id := by simpa using List.find?_some hget
  have hentry := (update_replaced hget hid).get?_eq (hid.trans hfound)
  rw [hsame, hget] at hentry
  exact hne (Option.some.inj hentry).symm

/-! ## Runs with valid requests -/

/-- Every operation keeps the requests valid, since publishing checks them. -/
theorem Effect.request_valid {operation : Operation} {answer : Answer}
    (h : s.Effect operation answer s') (hs : ∀ e ∈ s.entries, e.request.validate = .ok ()) :
    ∀ e ∈ s'.entries, e.request.validate = .ok () := by
  obtain ⟨-, -, hthins⟩ | ⟨bundle, request, now, trigger, -, -, hcheck, -, -, rfl⟩ := h.thins
  · intro e he
    obtain ⟨x, hx, hsame⟩ :=
      List.mem_map.1 (hthins.subset (List.mem_map_of_mem (f := Entry.publication) he))
    have hrequest : x.request = e.request := congrArg Publication.request hsame
    rw [← hrequest]
    exact hs x hx
  · exact forall_mem_accept (forall_mem_drop _ hs) (checkRequest_eq_ok.1 hcheck).2

end Schedule

theorem Run.request_valid [LocalTime] {start s : Schedule} {steps : List Step}
    (run : Run start steps s)
    (valid : ∀ e ∈ start.entries, e.request.validate = .ok ()) :
    ∀ e ∈ s.entries, e.request.validate = .ok () := by
  induction run with
  | start => exact valid
  | step _ hperform ih => exact (Schedule.perform_effect hperform).request_valid ih

/-! ## The exception -/

namespace Schedule

/-- A refused snooze changes nothing.  Refused dismissals of a reminder change nothing if and only
if it is not one on screen that repeats from a date time that does not exist.  Such a reminder
leaves the screen, and nothing else changes.  A run that starts with valid requests never comes
upon one. -/
theorem refused_unchanged_iff [LocalTime] (s : Schedule) (id : Int32) (now : DateTime) :
    (∀ s' cause, s.snooze id now = (s', .error cause) → s' = s) ∧
    ((∀ s' cause, s.close id now = (s', .ok (.error cause)) → s' = s) ↔
      ¬ s.ShowsFromNowhere id) ∧
    (∀ e dateTime, s.get? id = some e → e.status.isShowing →
      e.request.kind.RepeatsFromNowhere dateTime →
      ∃ s', s.close id now = (s', .ok (.error (.invalid (.localDateTime dateTime)))) ∧
        s.Replaced id e e.offScreen (fun _ => true) s') ∧
    ∀ start steps, Run start steps s →
      (∀ e ∈ start.entries, e.request.validate = .ok ()) → ¬ s.ShowsFromNowhere id := by
  refine ⟨fun s' cause => snooze_refused, ⟨?_, fun hnot s' cause hclose => ?_⟩, ?_,
    fun start steps run valid => not_showsFromNowhere (run.request_valid valid)⟩
  · rintro hsame ⟨e, dateTime, hget, hshowing, hnowhere⟩
    have hid : e.offScreen.id = e.id := rfl
    exact update_ne hget hid (Entry.offScreen_ne hshowing)
      (hsame _ _ (close_fromNowhere hget hshowing hnowhere now))
  · obtain ⟨rfl, -, -⟩ | hshows := close_refused hclose
    · rfl
    · exact absurd hshows hnot
  · intro e dateTime hget hshowing hnowhere
    exact ⟨_, close_fromNowhere hget hshowing hnowhere now, update_replaced hget rfl⟩

/-- A reminder on screen that repeats every third of March, counted from a February 30. -/
def februaryTea : Entry :=
  { Entry.kettle 1 with
    request.kind := .calendar ⟨2025, 2, 30, 8, 0, 0⟩ [3] [3]
    status := .showing true
    snoozesLeft := 3
    lastShown := some .first }

/-- Its dismissal is refused, and yet the reminder leaves the screen. -/
theorem close_februaryTea :
    close ⟨1, [februaryTea]⟩ 1 .first =
      (⟨1, [februaryTea.offScreen]⟩,
        .ok (.error (.invalid (.localDateTime ⟨2025, 2, 30, 8, 0, 0⟩)))) := by cbv

attribute [local instance] LocalTime.universal

/-- So this is the exception. -/
theorem showsFromNowhere_februaryTea :
    ∃ s', ShowsFromNowhere ⟨1, [februaryTea]⟩ 1 ∧
      close ⟨1, [februaryTea]⟩ 1 .first =
        (s', .ok (.error (.invalid (.localDateTime ⟨2025, 2, 30, 8, 0, 0⟩)))) ∧
      Replaced ⟨1, [februaryTea]⟩ 1 februaryTea februaryTea.offScreen (fun _ => true) s' ∧
      s' ≠ ⟨1, [februaryTea]⟩ := by
  obtain ⟨-, hiff, hleaves, -⟩ := refused_unchanged_iff ⟨1, [februaryTea]⟩ 1 .first
  have hnowhere : februaryTea.request.kind.RepeatsFromNowhere ⟨2025, 2, 30, 8, 0, 0⟩ :=
    .calendar (by simp [ReminderKind.Recurs]) (by decide)
  obtain ⟨s', hclose, hreplaced⟩ := hleaves februaryTea _ rfl rfl hnowhere
  have hshows : ShowsFromNowhere ⟨1, [februaryTea]⟩ 1 := ⟨februaryTea, _, rfl, rfl, hnowhere⟩
  refine ⟨s', hshows, hclose, hreplaced, fun hsame => hiff.1 (fun other cause hother => ?_) hshows⟩
  obtain ⟨rfl, -⟩ := Prod.mk.inj (hclose.symm.trans hother)
  exact hsame

/-- A refused dismissal may change something that was loaded. -/
theorem not_refused_unchanged :
    ¬ ∀ (place : Store) (s s' : Schedule) (id : Int32) (now : DateTime) (cause : Error),
      place.load = .ok (some s) → (s.snooze id now = (s', .error cause) → s' = s) ∧
        (s.close id now = (s', .ok (.error cause)) → s' = s) := by
  intro h
  have hsame := (h _ _ _ _ _ _ (Store.load_text ⟨1, [februaryTea]⟩)).2 close_februaryTea
  exact absurd hsame (by decide)

end Schedule

end Reminders
