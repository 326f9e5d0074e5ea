import Reminders.Proofs.Validity

/-!
# The next ring lies ahead

A date time moved by a positive number of seconds lies behind the one it started
from (`DateTime.lt_of_later?`).  So does every moment that a recurrence finds:
an alarm and a calendar reminder ring strictly after now, whether they ring once
or on selected days (`nextAlarm_lt`, `nextCalendar?_lt`).  A request that rings
again by its kind therefore rings after now (`nextTrigger_lt`).
-/

namespace Reminders

namespace DateTime

/-- The earlier day comes first, whatever the times of day. -/
theorem lt_of_date_lt {t u : DateTime} (h : t.date.number < u.date.number) : t < u := by
  have hs := t.time.second_lt
  have hn := t.time.nano_lt
  simp only [lt_def, instant, TimeOfDay.instant, Int.ofNat_eq_natCast]
  omega

theorem lt_of_second_lt {t u : DateTime} (hd : t.date.number = u.date.number)
    (h : t.time.second < u.time.second) : t < u := by
  have hn := t.time.nano_lt
  simp only [lt_def, instant, TimeOfDay.instant, Int.ofNat_eq_natCast]
  omega

theorem not_le_iff_lt {t u : DateTime} : ¬ t ≤ u ↔ u < t := by
  simp only [le_def, lt_def]
  omega

/-- The date and the second of the day of a later date time. -/
theorem later?_number {t u : DateTime} {seconds : Nat} (h : t.later? seconds = some u) :
    u.date.number = t.date.number + Int.ofNat ((t.time.second + seconds) / 86400) ∧
      u.time.second = (t.time.second + seconds) % 86400 := by
  have hs := t.time.second_lt
  rw [later?] at h
  split at h
  case isTrue hzero =>
    cases h
    rw [hzero, Nat.add_zero, Nat.div_eq_of_lt hs, Nat.mod_eq_of_lt hs]
    simp
  case isFalse =>
    obtain ⟨date, hdate, rfl⟩ := Option.map_eq_some_iff.1 h
    exact ⟨Date.ofNumber?_eq_some hdate, rfl⟩

theorem lt_of_later? {t u : DateTime} {seconds : Nat} (hpos : 0 < seconds)
    (h : t.later? seconds = some u) : t < u := by
  obtain ⟨hdate, hsecond⟩ := later?_number h
  simp only [Int.ofNat_eq_natCast] at hdate
  by_cases hday : (t.time.second + seconds) / 86400 = 0
  · refine lt_of_second_lt (by omega) ?_
    have := t.time.second_lt
    omega
  · exact lt_of_date_lt (by omega)

/-- Days are added as so many seconds, and overflow where those do. -/
theorem daysLater_eq_ok {t u : DateTime} {days : Nat} :
    t.daysLater days = .ok u ↔ t.later? (days * 86400) = some u := by
  rw [daysLater]
  cases t.later? (days * 86400) <;> simp

end DateTime

namespace Recurrence

/-! ## Alarms -/

/-- A time today that is ahead, or the same time on a later day, is ahead. -/
theorem lt_of_daysLater {now u : DateTime} {time : TimeOfDay} {days : Nat}
    (hsoon : days = 0 → now < ⟨now.date, time⟩)
    (h : DateTime.daysLater ⟨now.date, time⟩ days = .ok u) : now < u := by
  rw [DateTime.daysLater_eq_ok] at h
  by_cases hzero : days = 0
  · subst hzero
    rw [DateTime.later?, if_pos (Nat.zero_mul _)] at h
    cases h
    exact hsoon rfl
  · refine DateTime.lt_of_date_lt ?_
    have hnumber := (DateTime.later?_number h).1
    simp only [Int.ofNat_eq_natCast] at hnumber
    omega

/-- An alarm is found after now only. -/
theorem nextAlarm_lt {hour minute : UInt8} {weekdays : Nat} {now t : DateTime} {tomorrow : Bool}
    (h : nextAlarm hour minute weekdays now tomorrow = .ok (some t)) : now < t := by
  rw [nextAlarm] at h
  split at h
  case h_1 => cases h
  case h_2 time _ =>
    simp only at h
    split at h
    case isTrue =>
      split at h
      case isTrue hahead =>
        cases h
        exact hahead
      case isFalse =>
        split at h
        case isTrue =>
          obtain ⟨u, hu, hut⟩ := Except.map_eq_ok.1 h
          cases hut
          exact lt_of_daysLater (fun h => absurd h (by decide)) hu
        case isFalse => cases h
    case isFalse =>
      split at h
      case h_1 => cases h
      case h_2 days hdays =>
        obtain ⟨u, hu, hut⟩ := Except.map_eq_ok.1 h
        cases hut
        refine lt_of_daysLater (fun hzero => ?_) hu
        have hmem := List.mem_of_find?_eq_some hdays
        rw [List.mem_range'_1] at hmem
        -- The search starts tomorrow unless the time is ahead today.
        split at hmem
        case isTrue => omega
        case isFalse hahead => exact DateTime.not_le_iff_lt.1 hahead

/-! ## Calendars -/

/-- What a month offers lies after now. -/
theorem nextInMonth?_lt {time : TimeOfDay} {days : Nat} {now t : DateTime} {year : Int}
    {month : Nat} (h : nextInMonth? time days now year month = some t) : now < t := by
  obtain ⟨day, _, hday⟩ := List.exists_of_findSome?_eq_some h
  split at hday
  case isTrue =>
    obtain ⟨date, _, hdate⟩ := Option.bind_eq_some_iff.1 hday
    simp only at hdate
    split at hdate
    case isTrue hahead =>
      cases hdate
      exact hahead
    case isFalse => cases hdate
  case isFalse => cases hday

/-- A calendar reminder is found after now only. -/
theorem nextCalendar?_lt {first now t : DateTime} {months days : Nat}
    (h : nextCalendar? first months days now = some t) : now < t := by
  rw [nextCalendar?] at h
  split at h
  case isTrue =>
    split at h
    case isTrue hahead =>
      cases h
      exact hahead
    case isFalse => cases h
  case isFalse =>
    obtain ⟨count, _, hcount⟩ := List.exists_of_findSome?_eq_some h
    simp only at hcount
    split at hcount
    case isTrue => exact nextInMonth?_lt hcount
    case isFalse => cases hcount

end Recurrence

/-! ## Requests -/

/-- Whatever is not a timer triggers after now. -/
theorem ReminderKind.trigger_lt {kind : ReminderKind} {now t : DateTime}
    (hkind : kind.type ≠ .timer) (h : kind.trigger now = .ok (.ok (some t))) : now < t := by
  cases kind with
  | timer seconds => exact absurd rfl hkind
  | calendar dateTime months days =>
    simp only [trigger, Except.ok.injEq] at h
    obtain ⟨first, _, hnext⟩ := Except.map_eq_ok.1 h
    exact Recurrence.nextCalendar?_lt hnext
  | alarm hour minute weekdays =>
    obtain ⟨next, hnext, hok⟩ := Except.map_eq_ok.1 h
    cases hok
    exact Recurrence.nextAlarm_lt hnext

theorem ReminderKind.type_ne_timer_of_repeats {kind : ReminderKind} (h : kind.repeats) :
    kind.type ≠ .timer := by
  cases kind <;> simp_all [repeats, type]

/-- The trigger a reminder moves on to lies ahead. -/
theorem ReminderRequest.nextTrigger_lt {r : ReminderRequest} {now t : DateTime}
    (h : r.nextTrigger now = .ok (.ok (some t))) : now < t := by
  rw [nextTrigger] at h
  split at h
  case isTrue hrepeats =>
    exact ReminderKind.trigger_lt (ReminderKind.type_ne_timer_of_repeats hrepeats) h
  case isFalse => cases h

end Reminders
