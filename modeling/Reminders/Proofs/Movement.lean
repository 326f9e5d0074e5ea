import Reminders.Proofs.Ahead
import Reminders.Proofs.Run

/-!
# How an entry moves

Whatever happens to an entry, its id, its bundle and its request stay.  What does
change is said here once for each operation that changes a single entry.

* `rung_cases`: an entry that rings is shown and alerts.  A timer then expires.
  Another entry counts down its snoozes while it has some, and otherwise gets
  them back and moves to its next ring by kind.
* `coveredBy_eq`: an entry that is covered only leaves the screen.
* `refreshed_cases`: only an entry that waits, and is neither a timer nor due,
  looks for its ring anew.

An entry that rang has expired or rings strictly later (`rung_ahead`).
`rung_expired_iff` and `refreshed_expired_iff` say when an entry expires.
-/

namespace Reminders

namespace Entry

/-- Whether the entry rings again by itself before it moves to its next ring by kind. -/
def hasSnooze (e : Entry) : Prop := 0 < e.request.interval ∧ 0 < e.snoozesLeft

instance (e : Entry) : Decidable e.hasSnooze := inferInstanceAs (Decidable (_ ∧ _))

/-- The entry on screen, alerting since now. -/
def shownAt (e : Entry) (now : DateTime) : Entry :=
  { e with status := .showing true, lastShown := some now }

theorem not_isOver_of_live {e : Entry} (live : e.expired = false) : e.isOver = false := by
  rw [isOver, live, Bool.false_and]

theorem live_of_isDue {e : Entry} {now : DateTime} (h : e.isDue now) : e.expired = false := by
  simp only [isDue, Bool.and_eq_true, Bool.not_eq_true'] at h
  exact h.1

/-! ## Ringing -/

/-- An entry that rings forgets what it did before. -/
theorem rung_of_status (e : Entry) (status : ReminderStatus) (now : DateTime) :
    { e with status }.rung now = e.rung now := rfl

/-- A reminder that lives on has a trigger. -/
theorem trigger_isSome_of_movedTo {e : Entry} {next : Option DateTime}
    (h : (e.movedTo next).expired = false) : (e.movedTo next).trigger.isSome := by
  cases next with
  | none => cases h
  | some t => rfl

/-- A ring ends a timer, takes one of the snoozes of another reminder, or moves it on to its next
trigger. -/
theorem rung_cases {e r : Entry} {now : DateTime} (h : e.rung now = (r, .ok ())) :
    (e.request.type = .timer ∧ r = (e.shownAt now).movedTo none) ∨
      (e.request.type ≠ .timer ∧ e.hasSnooze ∧
        r = { e.shownAt now with snoozesLeft := e.snoozesLeft - 1 }.movedTo
          (Recurrence.afterSeconds? now e.request.interval)) ∨
      (e.request.type ≠ .timer ∧ ¬ e.hasSnooze ∧ ∃ next,
        e.request.nextTrigger now = .ok next ∧
          r = { e.shownAt now with snoozesLeft := e.request.snoozes }.movedTo
            next.toOption.join) := by
  rw [rung, advance] at h
  split at h
  case isTrue htimer =>
    cases h
    exact .inl ⟨htimer, rfl⟩
  case isFalse htimer =>
    split at h
    case isTrue hsnooze =>
      cases h
      exact .inr (.inl ⟨htimer, hsnooze, rfl⟩)
    case isFalse hsnooze =>
      simp only at h
      split at h
      case h_1 next hnext =>
        cases h
        exact .inr (.inr ⟨htimer, hsnooze, next, hnext, rfl⟩)
      case h_2 => cases h

/-- A ring shows the reminder now, and leaves what was published alone. -/
theorem rung_kept (e : Entry) (now : DateTime) :
    (e.rung now).1.id = e.id ∧ (e.rung now).1.bundle = e.bundle ∧
      (e.rung now).1.request = e.request ∧ (e.rung now).1.status = .showing true ∧
      (e.rung now).1.lastShown = some now := by
  rw [rung, advance]
  split
  · exact ⟨rfl, rfl, rfl, rfl, rfl⟩
  · split
    · exact ⟨rfl, rfl, rfl, rfl, rfl⟩
    · simp only
      split <;> exact ⟨rfl, rfl, rfl, rfl, rfl⟩

@[simp] theorem rung_id (e : Entry) (now : DateTime) : (e.rung now).1.id = e.id :=
  (rung_kept e now).1

@[simp] theorem rung_bundle (e : Entry) (now : DateTime) : (e.rung now).1.bundle = e.bundle :=
  (rung_kept e now).2.1

@[simp] theorem rung_request (e : Entry) (now : DateTime) : (e.rung now).1.request = e.request :=
  (rung_kept e now).2.2.1

@[simp] theorem rung_status (e : Entry) (now : DateTime) :
    (e.rung now).1.status = .showing true :=
  (rung_kept e now).2.2.2.1

@[simp] theorem rung_lastShown (e : Entry) (now : DateTime) :
    (e.rung now).1.lastShown = some now :=
  (rung_kept e now).2.2.2.2

theorem rung_publication (e : Entry) (now : DateTime) :
    (e.rung now).1.publication = e.publication := by
  simp only [publication, rung_id, rung_bundle, rung_request]

/-- What rings depends on the publication and the moment alone. -/
theorem rung_alert [LocalTime] (e : Entry) (now : DateTime) :
    (e.rung now).1.alert = (e.shownAt now).alert := by
  simp only [alert, notification, rung_id, rung_bundle, rung_request, rung_lastShown]
  rfl

/-- An entry that rang does not ring again at the same moment. -/
theorem rung_ahead {e r : Entry} {now : DateTime} (h : e.rung now = (r, .ok ())) :
    r.expired ∨ ∃ t, r.trigger = some t ∧ now < t := by
  obtain ⟨-, rfl⟩ | ⟨-, ⟨hinterval, -⟩, rfl⟩ | ⟨-, -, next, hnext, rfl⟩ := rung_cases h
  · exact .inl rfl
  · cases hafter : Recurrence.afterSeconds? now e.request.interval with
    | none => exact .inl rfl
    | some t => exact .inr ⟨t, rfl, DateTime.lt_of_later? hinterval hafter⟩
  · obtain _ | _ | t := next
    · exact .inl rfl
    · exact .inl rfl
    · exact .inr ⟨t, rfl, ReminderRequest.nextTrigger_lt hnext⟩

/-- What has just rung is not due at the same moment. -/
theorem not_isDue_of_rung {e r : Entry} {now : DateTime} (h : e.rung now = (r, .ok ())) :
    ¬ r.isDue now := by
  obtain hexpired | ⟨t, ht, hlt⟩ := rung_ahead h
  · simp [isDue, hexpired]
  · simp [isDue, ht, DateTime.not_le_iff_lt.2 hlt]

/-- Whether an entry that rings now will not ring again.  It is a timer, or its
snooze would be past the last date, or it has no snooze left and its kind finds
no further ring. -/
def LastRing (e : Entry) (now : DateTime) : Prop :=
  e.request.type = .timer ∨
    (e.hasSnooze ∧ Recurrence.afterSeconds? now e.request.interval = none) ∨
    (¬ e.hasSnooze ∧ (e.request.nextTrigger now = .ok (.ok none) ∨
      ∃ cause, e.request.nextTrigger now = .ok (.error cause)))

/-- A ring is the last one of a reminder if and only if it expires with it. -/
theorem rung_expired_iff {e r : Entry} {now : DateTime} (h : e.rung now = (r, .ok ())) :
    r.expired ↔ e.LastRing now := by
  obtain ⟨htimer, rfl⟩ | ⟨htimer, hsnooze, rfl⟩ | ⟨htimer, hsnooze, next, hnext, rfl⟩ :=
    rung_cases h
  · exact iff_of_true rfl (.inl htimer)
  · simp [LastRing, htimer, hsnooze, movedTo]
  · obtain cause | _ | t := next <;>
      simp [LastRing, htimer, hsnooze, hnext, movedTo, Except.toOption]

/-! ## Covering -/

/-- Covering takes a reminder from the screen, and else does nothing. -/
theorem coveredBy_eq (other e : Entry) :
    other.coveredBy e = other ∨
      (other.status.isShowing ∧ other.coveredBy e = { other with status := .active }) := by
  rw [coveredBy]
  split
  case isTrue h => exact .inr ⟨(Bool.and_eq_true_iff.1 h).2, rfl⟩
  case isFalse => exact .inl rfl

/-- What an entry covers depends on its id, its bundle and its request. -/
theorem coveredBy_congr {e e' : Entry} (hid : e.id = e'.id) (hbundle : e.bundle = e'.bundle)
    (hrequest : e.request = e'.request) (other : Entry) :
    other.coveredBy e = other.coveredBy e' := by
  have hcovers : e.covers other = e'.covers other := by
    simp only [covers, hid, hbundle, hrequest]
  rw [coveredBy, coveredBy, hcovers]

/-! ## The clock -/

/-- Whether the entry looks for its ring anew once the clock was set. -/
def LooksAnew (e : Entry) (now : DateTime) : Prop :=
  e.expired = false ∧ e.status = .active ∧ e.request.type ≠ .timer ∧ ¬ e.isDue now

/-- The guard of a refresh, read the other way. -/
theorem looksAnew_iff {e : Entry} {now : DateTime} :
    e.LooksAnew now ↔
      ¬ (e.expired || e.status ≠ .active || e.request.type = .timer || e.isDue now) := by
  simp [LooksAnew, and_assoc]

/-- A refresh leaves a reminder alone, finds it a trigger, or ends it for want of one. -/
theorem refreshed_cases {e e' : Entry} {now : DateTime} (h : e.refreshed now = .ok e') :
    (¬ e.LooksAnew now ∧ e' = e) ∨
      (e.LooksAnew now ∧ ∃ t, e.request.firstTrigger now = .ok (.ok (some t)) ∧
        e' = { e with trigger := some t }) ∨
      (e.LooksAnew now ∧ e.request.firstTrigger now = .ok (.ok none) ∧
        e' = { e with expired := true }) ∨
      (e.LooksAnew now ∧ (∃ cause, e.request.firstTrigger now = .ok (.error cause)) ∧
        e' = e) := by
  rw [refreshed] at h
  split at h
  case isTrue hwaits =>
    cases h
    exact .inl ⟨fun hanew => looksAnew_iff.1 hanew hwaits, rfl⟩
  case isFalse hwaits =>
    have hanew := looksAnew_iff.2 hwaits
    obtain ⟨next, hnext, h⟩ := Except.bind_eq_ok.1 h
    obtain cause | _ | t := next
    · cases h
      exact .inr (.inr (.inr ⟨hanew, ⟨cause, hnext⟩, rfl⟩))
    · cases h
      exact .inr (.inr (.inl ⟨hanew, hnext, rfl⟩))
    · cases h
      exact .inr (.inl ⟨hanew, t, hnext, rfl⟩)

/-- A refresh leaves what was published alone. -/
theorem refreshed_publication {e e' : Entry} {now : DateTime} (h : e.refreshed now = .ok e') :
    e'.publication = e.publication := by
  obtain ⟨-, rfl⟩ | ⟨-, t, -, rfl⟩ | ⟨-, -, rfl⟩ | ⟨-, -, rfl⟩ := refreshed_cases h
  · rfl
  · rfl
  · rfl
  · rfl

/-- A set clock revives no entry. -/
theorem live_of_refreshed {e e' : Entry} {now : DateTime} (h : e.refreshed now = .ok e')
    (live' : e'.expired = false) : e.expired = false := by
  obtain ⟨-, rfl⟩ | ⟨⟨hlive, -⟩, -⟩ | ⟨⟨hlive, -⟩, -⟩ | ⟨⟨hlive, -⟩, -⟩ := refreshed_cases h
  · exact live'
  · exact hlive
  · exact hlive
  · exact hlive

/-- An entry expires by a set clock only for want of a ring. -/
theorem refreshed_expired_iff {e e' : Entry} {now : DateTime} (h : e.refreshed now = .ok e')
    (live : e.expired = false) :
    e'.expired ↔ e.LooksAnew now ∧ e.request.firstTrigger now = .ok (.ok none) := by
  obtain ⟨hanew, rfl⟩ | ⟨-, t, hfirst, rfl⟩ | ⟨hanew, hfirst, rfl⟩ | ⟨-, ⟨cause, hfirst⟩, rfl⟩ :=
    refreshed_cases h
  · simp [hanew, live]
  · simp [hfirst, live]
  · simp [hanew, hfirst]
  · simp [hfirst, live]

end Entry

end Reminders
