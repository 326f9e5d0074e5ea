import Reminders.Schedule.Basic

/-!
# What a check guarantees

A check that passes guarantees what the operations behind it rely on.  A request
may be published if its bundle and the request itself pass (`checkRequest_eq_ok`).
A valid request finds its rings without an error (`trigger_ne_error`), since only
the date time of a calendar reminder could be refused, and its check reads it.
-/

namespace Reminders

/-! ## Results -/

theorem Except.map_eq_ok {ε α β : Type} {f : α → β} {x : Except ε α} {b : β} :
    x.map f = .ok b ↔ ∃ a, x = .ok a ∧ f a = b := by
  cases x <;> simp [Except.map]

theorem Except.bind_eq_ok {ε α β : Type} {x : Except ε α} {f : α → Except ε β} {b : β} :
    (x >>= f) = .ok b ↔ ∃ a, x = .ok a ∧ f a = .ok b := by
  cases x <;> simp [bind, Except.bind]

/-! ## Requests -/

/-- The checks pass if the bundle has a name and the request is valid. -/
theorem checkRequest_eq_ok {bundle : Bundle} {request : ReminderRequest} :
    Schedule.checkRequest bundle request = .ok () ↔
      bundle.validate = .ok () ∧ request.validate = .ok () := by
  rw [Schedule.checkRequest, Except.bind_eq_ok]
  constructor
  · rintro ⟨⟨⟩, hbundle, hrequest⟩
    exact ⟨hbundle, hrequest⟩
  · rintro ⟨hbundle, hrequest⟩
    exact ⟨(), hbundle, hrequest⟩

/-- A valid request is of a valid kind. -/
theorem ReminderRequest.kind_valid {r : ReminderRequest} (h : r.validate = .ok ()) :
    r.kind.validate = .ok () := by
  rw [validate, Except.bind_eq_ok] at h
  obtain ⟨_, hkind, _⟩ := h
  exact hkind

namespace ReminderKind

/-- A valid calendar reminder has a date time of the calendar. -/
theorem dateTime_of_valid {dateTime : LocalDateTime} {months days : List UInt8}
    (h : (calendar dateTime months days).validate = .ok ()) :
    ∃ first, dateTime.toDateTime = .ok first := by
  rw [validate, Except.bind_eq_ok] at h
  obtain ⟨first, hfirst, _⟩ := h
  exact ⟨first, hfirst⟩

/-- The trigger of a valid kind is never refused. -/
theorem trigger_ne_error {kind : ReminderKind} (h : kind.validate = .ok ()) (now : DateTime)
    (e : Error) : kind.trigger now ≠ .ok (.error e) := by
  cases kind with
  | timer seconds => simp [trigger]
  | calendar dateTime months days =>
    obtain ⟨first, hfirst⟩ := dateTime_of_valid h
    simp [trigger, hfirst, Except.map]
  | alarm hour minute weekdays =>
    intro htrigger
    obtain ⟨next, _, hnext⟩ := Except.map_eq_ok.1 htrigger
    cases hnext

end ReminderKind

/-- Nor is the next trigger of a valid request. -/
theorem ReminderRequest.nextTrigger_ne_error {r : ReminderRequest} (h : r.validate = .ok ())
    (now : DateTime) (e : Error) : r.nextTrigger now ≠ .ok (.error e) := by
  rw [nextTrigger]
  split
  case isTrue => exact ReminderKind.trigger_ne_error (kind_valid h) now e
  case isFalse => simp

end Reminders
