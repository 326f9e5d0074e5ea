import Mathlib
import Reminders.Proofs.Occurrence
import Reminders.Proofs.Upkeep

/-!
# Reminders that recur

An alarm recurs if it has a weekday, and a calendar reminder if it has a month and a day.
Such a reminder occurs at the moments that its lists name (`ReminderKind.OccursAt`).  It is
lost if it expires although it still occurs.

* An alarm finds its next occurrence if it has any (`exists_nextAlarm`), since it then also
  has one within a week.
* A calendar reminder finds it if there is one by the end of the month one year from now
  (`exists_nextCalendar?`), where its search ends.
* A ring that is followed by a snooze does not ask for an occurrence.  The entry moves on if
  the snooze is not past the last date (`Entry.FindsRing`).

In all these cases the entry is kept and will ring again, both when it rings and when it is
dismissed (`Run.recurring_ringsAfter`).  In the other cases it may be lost
(`not_recurring_ringsAfter`).
-/

namespace Reminders

/-! ## Masks -/

namespace Recurrence

/-- Numbers from 1 to the greatest are selected if they are in the list. -/
theorem testBit_mask (greatest : Nat) (values : List UInt8) (place : Nat) :
    (mask greatest values).testBit place ↔
      ∃ v ∈ values, 1 ≤ v.toNat ∧ v.toNat ≤ greatest ∧ v.toNat - 1 = place := by
  have hfold : ∀ bits : Nat, (values.foldl (fun bits v =>
      if 1 ≤ v.toNat ∧ v.toNat ≤ greatest then bits ||| 1 <<< (v.toNat - 1) else bits)
      bits).testBit place ↔ bits.testBit place ∨
        ∃ v ∈ values, 1 ≤ v.toNat ∧ v.toNat ≤ greatest ∧ v.toNat - 1 = place := by
    induction values with
    | nil => simp
    | cons v values ih =>
      intro bits
      rw [List.foldl_cons, ih, List.exists_mem_cons_iff]
      split
      case isTrue hrange =>
        rw [Nat.testBit_or, Nat.one_shiftLeft, Nat.testBit_two_pow, Bool.or_eq_true, or_assoc]
        simp [hrange]
      case isFalse hrange =>
        have hskip : ¬ (1 ≤ v.toNat ∧ v.toNat ≤ greatest ∧ v.toNat - 1 = place) :=
          fun h => hrange ⟨h.1, h.2.1⟩
        simp [hskip]
  rw [mask, hfold]
  simp

theorem selects_mask {greatest n : Nat} {values : List UInt8} (hlow : 1 ≤ n)
    (hhigh : n ≤ greatest) :
    selects (mask greatest values) n ↔ ∃ v ∈ values, v.toNat = n := by
  rw [selects, testBit_mask]
  constructor
  · rintro ⟨v, hv, hpos, -, hplace⟩
    exact ⟨v, hv, by omega⟩
  · rintro ⟨v, hv, rfl⟩
    exact ⟨v, hv, hlow, hhigh, rfl⟩

/-- A mask is empty unless some value of the list is in range. -/
theorem mask_ne_zero_iff {greatest : Nat} {values : List UInt8} :
    mask greatest values ≠ 0 ↔ ∃ v ∈ values, 1 ≤ v.toNat ∧ v.toNat ≤ greatest := by
  constructor
  · intro hne
    obtain ⟨place, hplace⟩ := Nat.exists_testBit_of_ne_zero hne
    obtain ⟨v, hv, hlow, hhigh, -⟩ := (testBit_mask greatest values place).1 hplace
    exact ⟨v, hv, hlow, hhigh⟩
  · rintro ⟨v, hv, hlow, hhigh⟩ hzero
    have hbit := (testBit_mask greatest values (v.toNat - 1)).2 ⟨v, hv, hlow, hhigh, rfl⟩
    rw [hzero, Nat.zero_testBit] at hbit
    cases hbit

/-! ## Finding an occurrence -/

variable {hour minute : UInt8} {weekdays : Nat} {now t : DateTime} {time : TimeOfDay}

/-- An alarm that rings some days from now also does so within a week. -/
theorem exists_ringsAfter_le_week {days : Nat} (hrings : ringsAfter weekdays now days)
    (hsoon : soonest time now ≤ days) :
    ∃ j ≤ days, soonest time now ≤ j ∧ j ≤ 7 ∧ ringsAfter weekdays now j := by
  induction days using Nat.strongRecOn with
  | ind days ih =>
    have hone := soonest_le_one time now
    by_cases hweek : days ≤ 7
    case pos => exact ⟨days, le_refl _, hsoon, hweek, hrings⟩
    case neg =>
      rw [← ringsAfter_sub_week (by omega)] at hrings
      obtain ⟨j, hj, hlow, hhigh, hringsj⟩ := ih (days - 7) (by omega) hrings (by omega)
      exact ⟨j, by omega, hlow, hhigh, hringsj⟩

/-- An alarm that occurs after now finds a next ring, which is not past the last date. -/
theorem exists_nextAlarm (htime : TimeOfDay.ofClock? hour.toNat minute.toNat 0 = some time)
    (hoccurs : t ∈ alarmOccurrences time weekdays now) :
    ∃ next, nextAlarm hour minute weekdays now true = .ok (some next) := by
  obtain ⟨days, hnumber⟩ := Int.le.dest (DateTime.date_le_of_lt hoccurs.2.2)
  obtain ⟨-, hrings, hsoon⟩ := (mem_alarmOccurrences hnumber.symm).1 hoccurs
  obtain ⟨j, hj, hlow, hhigh, hringsj⟩ := exists_ringsAfter_le_week hrings hsoon
  have hmem : j ∈ List.range' (soonest time now) (daysPerWeek + 1 - soonest time now) := by
    rw [List.mem_range'_1, daysPerWeek]
    omega
  cases hfind : (List.range' (soonest time now) (daysPerWeek + 1 - soonest time now)).find?
      (ringsAfter weekdays now) with
  | none => exact absurd hringsj (List.find?_eq_none.1 hfind j hmem)
  | some first =>
    have hfirst : first ≤ j := by
      by_contra hlater
      have hnot := (List.find?_range'_eq_some.1 hfind).2.2 j hlow (by omega)
      simp [hringsj] at hnot
    -- The day found is not behind that of the occurrence.
    obtain ⟨next, hnext⟩ := DateTime.exists_at_time time
      (show now.date.number + first ≤ t.date.number by omega)
    exact ⟨next, (nextAlarm_eq_some_iff_find? htime).2 ⟨first, hfind, hnext⟩⟩

/-- So does a calendar reminder that occurs by the end of the month one year from now. -/
theorem exists_nextCalendar? {first : DateTime} {months days : Nat} (hmonths : months ≠ 0)
    (hdays : days ≠ 0) (hoccurs : t ∈ calendarOccurrences first.time.startOfMinute months days now)
    (hnear : t.monthIndex ≤ now.monthIndex + 12) :
    ∃ next, nextCalendar? first months days now = some next := by
  have hfinds : FindsLeast (nextCalendar? first months days now) _ :=
    nextCalendar?_findsLeast hmonths hdays
  cases hnext : nextCalendar? first months days now with
  | some next => exact ⟨next, rfl⟩
  | none =>
    rw [hnext] at hfinds
    exact (Set.eq_empty_iff_forall_notMem.1 hfinds t ⟨hoccurs, hnear⟩).elim

end Recurrence

/-! ## The occurrences of a reminder -/

theorem TimeOfDay.ofClock?_startOfMinute {hour minute second : Nat} {time : TimeOfDay}
    (h : ofClock? hour minute second = some time) :
    ofClock? hour minute 0 = some time.startOfMinute := by
  rw [ofClock?] at h ⊢
  split at h
  case isTrue hclock =>
    obtain ⟨hhour, hminute, hsecond⟩ := hclock
    rw [if_pos ⟨hhour, hminute, by decide⟩]
    rw [ofSecond?] at h ⊢
    split at h
    case isTrue =>
      cases h
      have hstart : hour * 3600 + minute * 60 + second -
          (hour * 3600 + minute * 60 + second) % 60 = hour * 3600 + minute * 60 + 0 := by omega
      have hday : hour * 3600 + minute * 60 + 0 < 86400 := by omega
      rw [dif_pos ⟨hday, by decide, fun h => absurd h (by decide)⟩]
      simp only [startOfMinute, hstart]
    case isFalse => cases h
  case isFalse => cases h

theorem LocalDateTime.toDateTime_eq_ok_iff {numbers : LocalDateTime} {t : DateTime} :
    numbers.toDateTime = .ok t ↔ numbers.toDateTime? = some t := by
  rw [toDateTime]
  cases numbers.toDateTime? with
  | none => simp
  | some moment => simp

/-- A date time has the time of day that its numbers say. -/
theorem LocalDateTime.ofClock?_of_toDateTime {numbers : LocalDateTime} {t : DateTime}
    (h : numbers.toDateTime = .ok t) :
    TimeOfDay.ofClock? numbers.hour.toNat numbers.minute.toNat numbers.second.toNat =
      some t.time := by
  obtain ⟨date, -, hmoment⟩ := Option.bind_eq_some_iff.1 (toDateTime_eq_ok_iff.1 h)
  obtain ⟨time, htime, hmoment⟩ := Option.bind_eq_some_iff.1 hmoment
  cases hmoment
  exact htime

theorem Date.weekday_le (d : Date) : 1 ≤ d.weekday ∧ d.weekday ≤ 7 := by
  rw [weekday]
  omega

/-- A mask of months selects those that are listed. -/
theorem Recurrence.selects_monthMask (months : List UInt8) (d : Date) :
    selects (monthMask months) d.calendar.month ↔
      ∃ m ∈ months, m.toNat = d.calendar.month := by
  have hvalid := d.isValid_calendar
  simp only [CalendarDate.isValid, Bool.and_eq_true, decide_eq_true_eq] at hvalid
  exact selects_mask hvalid.1.1.1 hvalid.1.1.2

theorem Recurrence.selects_dayMask (days : List UInt8) (d : Date) :
    selects (dayMask days) d.calendar.day ↔ ∃ v ∈ days, v.toNat = d.calendar.day := by
  have hvalid := d.isValid_calendar
  simp only [CalendarDate.isValid, Bool.and_eq_true, decide_eq_true_eq] at hvalid
  have hlast := CalendarDate.daysInMonth_le d.calendar.year d.calendar.month
  exact selects_mask hvalid.1.2 (Nat.le_trans hvalid.2 hlast)

namespace ReminderKind

/-- Whether the kind has something to repeat on: a weekday, or a month and a day. -/
def Recurs : ReminderKind → Prop
  | .timer _ => False
  | .calendar _ months days =>
      (∃ m ∈ months, 1 ≤ m.toNat ∧ m.toNat ≤ 12) ∧ ∃ d ∈ days, 1 ≤ d.toNat ∧ d.toNat ≤ 31
  | .alarm _ _ weekdays => ∃ d ∈ weekdays, 1 ≤ d.toNat ∧ d.toNat ≤ 7

/-- Whether a moment is one at which the kind rings, as its lists say. -/
def OccursAt : ReminderKind → DateTime → Prop
  | .timer _, _ => False
  | .calendar dateTime months days, t =>
      TimeOfDay.ofClock? dateTime.hour.toNat dateTime.minute.toNat 0 = some t.time ∧
        (∃ m ∈ months, m.toNat = t.date.calendar.month) ∧
        ∃ d ∈ days, d.toNat = t.date.calendar.day
  | .alarm hour minute weekdays, t =>
      TimeOfDay.ofClock? hour.toNat minute.toNat 0 = some t.time ∧
        ∃ d ∈ weekdays, d.toNat = t.date.weekday

/-- Whether the kind occurs after now.  For a calendar reminder only the time up to the end of
the month one year from now counts. -/
def OccursSoon (kind : ReminderKind) (now : DateTime) : Prop :=
  ∃ t, now < t ∧ kind.OccursAt t ∧ (kind.type = .calendar → t.monthIndex ≤ now.monthIndex + 12)

theorem repeats_of_recurs {kind : ReminderKind} (h : kind.Recurs) : kind.repeats := by
  cases kind with
  | timer => exact h.elim
  | calendar dateTime months days =>
    have hmonths : Recurrence.monthMask months ≠ 0 := Recurrence.mask_ne_zero_iff.2 h.1
    have hdays : Recurrence.dayMask days ≠ 0 := Recurrence.mask_ne_zero_iff.2 h.2
    simp [repeats, hmonths, hdays]
  | alarm hour minute weekdays =>
    have hweekdays : Recurrence.weekdayMask weekdays ≠ 0 := Recurrence.mask_ne_zero_iff.2 h
    simp [repeats, hweekdays]

/-- A kind repeats if and only if it has something to repeat on. -/
theorem repeats_iff_recurs {kind : ReminderKind} : kind.repeats ↔ kind.Recurs := by
  refine ⟨fun h => ?_, repeats_of_recurs⟩
  cases kind with
  | timer => cases h
  | calendar dateTime months days =>
    simp only [repeats, Bool.and_eq_true, decide_eq_true_eq] at h
    exact ⟨Recurrence.mask_ne_zero_iff.1 h.1, Recurrence.mask_ne_zero_iff.1 h.2⟩
  | alarm hour minute weekdays =>
    simp only [repeats, decide_eq_true_eq] at h
    exact Recurrence.mask_ne_zero_iff.1 h

/-- The occurrences of an alarm are among those its search is about. -/
theorem mem_alarmOccurrences {hour minute : UInt8} {weekdays : List UInt8} {now t : DateTime}
    (h : (alarm hour minute weekdays).OccursAt t) (hlt : now < t) :
    t ∈ Recurrence.alarmOccurrences t.time (Recurrence.weekdayMask weekdays) now := by
  have hweekday := t.date.weekday_le
  exact ⟨rfl, .inr ((Recurrence.selects_mask hweekday.1 hweekday.2).2 h.2), hlt⟩

theorem mem_calendarOccurrences {dateTime : LocalDateTime} {months days : List UInt8}
    {now t : DateTime} (h : (calendar dateTime months days).OccursAt t) (hlt : now < t) :
    t ∈ Recurrence.calendarOccurrences t.time (Recurrence.monthMask months)
      (Recurrence.dayMask days) now := by
  obtain ⟨-, hmonth, hday⟩ := h
  exact ⟨rfl, (Recurrence.selects_monthMask months t.date).2 hmonth,
    (Recurrence.selects_dayMask days t.date).2 hday, hlt⟩

/-- A kind that occurs soon finds a next ring. -/
theorem exists_trigger {kind : ReminderKind} {now : DateTime} (valid : kind.validate = .ok ())
    (recurs : kind.Recurs) (hoccurs : kind.OccursSoon now) :
    ∃ next, kind.trigger now = .ok (.ok (some next)) := by
  obtain ⟨t, hlt, hat, hnear⟩ := hoccurs
  cases kind with
  | timer => exact recurs.elim
  | calendar dateTime months days =>
    obtain ⟨first, hfirst⟩ := dateTime_of_valid valid
    have htime := TimeOfDay.ofClock?_startOfMinute
      (LocalDateTime.ofClock?_of_toDateTime hfirst)
    rw [hat.1, Option.some.injEq] at htime
    have hmem := mem_calendarOccurrences hat hlt
    rw [htime] at hmem
    obtain ⟨next, hnext⟩ := Recurrence.exists_nextCalendar?
      (Recurrence.mask_ne_zero_iff.2 recurs.1) (Recurrence.mask_ne_zero_iff.2 recurs.2) hmem
      (hnear rfl)
    refine ⟨next, ?_⟩
    rw [trigger, hfirst]
    exact congrArg (fun found => Except.ok (Except.ok found)) hnext
  | alarm hour minute weekdays =>
    obtain ⟨next, hnext⟩ := Recurrence.exists_nextAlarm hat.1 (mem_alarmOccurrences hat hlt)
    refine ⟨next, ?_⟩
    rw [trigger, hnext]
    rfl

end ReminderKind

/-- A valid request that occurs soon rings again after now. -/
theorem ReminderRequest.exists_nextTrigger {r : ReminderRequest} {now : DateTime}
    (valid : r.validate = .ok ()) (recurs : r.kind.Recurs) (hoccurs : r.kind.OccursSoon now) :
    ∃ next, now < next ∧ r.nextTrigger now = .ok (.ok (some next)) := by
  obtain ⟨next, hnext⟩ := ReminderKind.exists_trigger (kind_valid valid) recurs hoccurs
  have hrequest : r.nextTrigger now = .ok (.ok (some next)) := by
    rw [nextTrigger, if_pos (ReminderKind.repeats_of_recurs recurs), hnext]
  exact ⟨next, nextTrigger_lt hrequest, hrequest⟩

/-! ## Entries that recur -/

namespace Entry

variable {e e' r : Entry} {now : DateTime}

/-- Whether the entry will ring after now. -/
def RingsAfter (e : Entry) (now : DateTime) : Prop :=
  e.expired = false ∧ ∃ t, e.trigger = some t ∧ now < t

/-- Whether the entry finds a moment to move to when it rings now.  That of a snooze must not
be past the last date. -/
def FindsRing (e : Entry) (now : DateTime) : Prop :=
  if e.hasSnooze then ∃ t, Recurrence.afterSeconds? now e.request.interval = some t
  else e.request.kind.OccursSoon now

/-- The entry off the screen, as it waits for its next ring by kind. -/
def renewed (e : Entry) (next : DateTime) : Entry :=
  { e with
    trigger := some next, status := .active, expired := false, snoozesLeft := e.request.snoozes }

/-- A ring of a reminder that recurs leaves it waiting for a later one. -/
theorem rung_ringsAfter (valid : e.request.validate = .ok ()) (recurs : e.request.kind.Recurs)
    (finds : e.FindsRing now) (h : e.rung now = (r, .ok ())) : r.RingsAfter now := by
  have htimer : e.request.type ≠ .timer :=
    ReminderKind.type_ne_timer_of_repeats (ReminderKind.repeats_of_recurs recurs)
  have hlast : ¬ e.LastRing now := by
    rw [FindsRing] at finds
    rintro (htype | ⟨hsnooze, hnone⟩ | ⟨hsnooze, hnext⟩)
    · exact htimer htype
    · rw [if_pos hsnooze] at finds
      obtain ⟨t, ht⟩ := finds
      rw [hnone] at ht
      cases ht
    · rw [if_neg hsnooze] at finds
      obtain ⟨next, -, hsome⟩ := ReminderRequest.exists_nextTrigger valid recurs finds
      rw [hsome] at hnext
      obtain hnone | ⟨cause, herror⟩ := hnext
      · cases hnone
      · cases herror
  have live : r.expired = false := by simpa using mt (rung_expired_iff h).1 hlast
  obtain hexpired | hahead := rung_ahead h
  · rw [live] at hexpired
    cases hexpired
  · exact ⟨live, hahead⟩

/-- Behind a batch a reminder that recurs waits for a later ring, also if it was covered. -/
theorem Fires.ringsAfter (valid : e.request.validate = .ok ()) (recurs : e.request.kind.Recurs)
    (finds : e.FindsRing now) (hdue : e.isDue now) (h : e.Fires now e') : e'.RingsAfter now := by
  cases h with
  | kept hnot => exact absurd hdue hnot
  | covered hnot => exact absurd hdue hnot
  | rang _ hrung => exact rung_ringsAfter valid recurs finds hrung
  | @hidden r _ hrung =>
    have hrings : r.RingsAfter now := rung_ringsAfter valid recurs finds hrung
    exact hrings

end Entry

namespace Schedule

variable {s s' : Schedule} {e : Entry} {now : DateTime}

/-- The purge of a batch keeps what waits for a later ring. -/
theorem fireDue_ringsAfter [LocalTime] {alerts : List Alert} (he : e ∈ s.entries)
    (valid : e.request.validate = .ok ()) (recurs : e.request.kind.Recurs)
    (finds : e.FindsRing now) (hdue : e.isDue now) (h : s.fireDue now = (s', .ok alerts)) :
    ∃ e' ∈ s'.entries, e.Fires now e' ∧ e'.RingsAfter now := by
  obtain ⟨e', hfires, hkeep⟩ := (fireDue_moved h).of_mem he
  have hrings := hfires.ringsAfter valid recurs finds hdue
  refine ⟨e', hkeep ?_, hfires, hrings⟩
  rw [Entry.not_isOver_of_live hrings.1, Bool.not_false]

/-- A close renews what finds a next trigger. -/
theorem close_of_nextTrigger {id : Int32} {next : DateTime} (hget : s.get? id = some e)
    (hshowing : e.status.isShowing) (hnext : e.request.nextTrigger now = .ok (.ok (some next))) :
    ∃ s', s.close id now = (s', .ok (.ok true)) ∧ e.renewed next ∈ s'.entries := by
  have hreplaced : s.Replaced id e (e.renewed next) (fun e => !e.isOver)
      (s.update (e.renewed next)).purge.1 := update_purge_replaced hget rfl
  rw [close, hget]
  simp only [hshowing, if_true, hnext]
  exact ⟨_, rfl, hreplaced.changed_mem rfl⟩

end Schedule

/-- A reminder that recurs outlives its rings and its dismissals, as long as it finds a moment
to move to. -/
theorem Run.recurring_ringsAfter [LocalTime] {steps : List Step} {s : Schedule} {e : Entry}
    (run : Run {} steps s) (he : e ∈ s.entries) (recurs : e.request.kind.Recurs)
    (now : DateTime) :
    (∀ s' alerts, s.fireDue now = (s', .ok alerts) → e.isDue now → e.FindsRing now →
      ∃ e' ∈ s'.entries, e.Fires now e' ∧ e'.RingsAfter now) ∧
    (s.get? e.id = some e → e.status.isShowing → e.request.kind.OccursSoon now →
      ∃ s' next, s.close e.id now = (s', .ok (.ok true)) ∧ now < next ∧
        e.renewed next ∈ s'.entries) := by
  have valid := (run.sound e he).request_valid
  constructor
  · intro s' alerts hfire hdue finds
    exact Schedule.fireDue_ringsAfter he valid recurs finds hdue hfire
  · intro hget hshowing hoccurs
    obtain ⟨next, hlt, hnext⟩ := ReminderRequest.exists_nextTrigger valid recurs hoccurs
    obtain ⟨s', hclose, hmem⟩ := Schedule.close_of_nextTrigger hget hshowing hnext
    exact ⟨s', next, hclose, hlt, hmem⟩

/-! ## A leap day -/

/-- A minute of a day. -/
def DateTime.onDay (year : Int32) (month day hour minute : UInt8) : DateTime :=
  (LocalDateTime.toDateTime? ⟨year, month, day, hour, minute, 0⟩).getD .first

/-- At eight on every leap day. -/
def ReminderKind.leapDays : ReminderKind := .calendar ⟨2024, 2, 29, 8, 0, 0⟩ [2] [29]

/-- At eight on every day. -/
def ReminderKind.mornings : ReminderKind := .alarm 8 0 [1, 2, 3, 4, 5, 6, 7]

/-- A request with one snooze. -/
def ReminderRequest.twice (kind : ReminderKind) (timeInterval : UInt64) : ReminderRequest where
  kind := kind
  timeInterval := timeInterval
  snoozeTimes := 1

/-- A reminder that rang at eight on a leap day, and will ring once more by itself. -/
def Schedule.atEight (kind : ReminderKind) : Schedule where
  lastId := 1
  entries := [
    { id := 1
      bundle := .kitchen
      request := .twice kind 300
      trigger := some (.onDay 2024 2 29 8 5)
      status := .showing true
      expired := false
      snoozesLeft := 0
      lastShown := some (.onDay 2024 2 29 8 0) }]

attribute [local instance] LocalTime.universal

theorem run_atEight {kind : ReminderKind} (h : kind = .leapDays ∨ kind = .mornings) :
    ∃ steps, Run {} steps (.atEight kind) := by
  have hend : (Schedule.performAll {}
      [.publish .kitchen (.twice kind 300) (.onDay 2024 2 29 0 0),
        .fireDue (.onDay 2024 2 29 8 0)]).map (·.2) = .ok (.atEight kind) := by
    obtain rfl | rfl := h
    · decide +kernel
    · decide +kernel
  obtain ⟨⟨steps, s⟩, hperform, rfl⟩ := Except.map_eq_ok.1 hend
  exact ⟨steps, Run.start.performAll hperform⟩

theorem mornings_occursSoon {now : DateTime} (h : now < .onDay 2024 3 1 8 0) :
    ReminderKind.mornings.OccursSoon now :=
  ⟨.onDay 2024 3 1 8 0, h, ⟨by decide +kernel, 5, by decide +kernel⟩, fun htype => by cases htype⟩

/-- A reminder of every morning rings again after its snooze, and also after it was dismissed. -/
theorem recurring_ringsAfter_mornings :
    ∃ steps e, Run {} steps (.atEight .mornings) ∧ e ∈ (Schedule.atEight .mornings).entries ∧
      e.request.kind.Recurs ∧ e.isDue (.onDay 2024 2 29 8 5) ∧
      e.FindsRing (.onDay 2024 2 29 8 5) ∧
      (∃ s' alerts, (Schedule.atEight .mornings).fireDue (.onDay 2024 2 29 8 5) =
        (s', .ok alerts) ∧ ∃ e' ∈ s'.entries, e'.RingsAfter (.onDay 2024 2 29 8 5)) ∧
      ∃ s' next, (Schedule.atEight .mornings).close 1 (.onDay 2024 2 29 8 5) =
        (s', .ok (.ok true)) ∧ .onDay 2024 2 29 8 5 < next ∧ e.renewed next ∈ s'.entries := by
  obtain ⟨steps, run⟩ := run_atEight (.inr rfl)
  have he : (Schedule.atEight .mornings).entries[0] ∈ (Schedule.atEight .mornings).entries :=
    List.getElem_mem (n := 0) (by decide)
  have recurs : (Schedule.atEight .mornings).entries[0].request.kind.Recurs := ⟨1, by decide⟩
  have hdue : (Schedule.atEight .mornings).entries[0].isDue (.onDay 2024 2 29 8 5) := by
    decide +kernel
  have hoccurs : ReminderKind.mornings.OccursSoon (.onDay 2024 2 29 8 5) :=
    mornings_occursSoon (by decide +kernel)
  have finds : (Schedule.atEight .mornings).entries[0].FindsRing (.onDay 2024 2 29 8 5) := by
    rw [Entry.FindsRing, if_neg (by decide)]
    exact hoccurs
  have hend : ((Schedule.atEight .mornings).fireDue (.onDay 2024 2 29 8 5)).2.map List.length =
      .ok 1 := by decide +kernel
  obtain ⟨alerts, halerts, -⟩ := Except.map_eq_ok.1 hend
  obtain ⟨hfire, hclose⟩ := run.recurring_ringsAfter he recurs (.onDay 2024 2 29 8 5)
  obtain ⟨e', he', -, hrings⟩ := hfire _ alerts (Prod.ext rfl halerts) hdue finds
  exact ⟨steps, _, run, he, recurs, hdue, finds, ⟨_, alerts, Prod.ext rfl halerts, e', he', hrings⟩,
    hclose rfl rfl hoccurs⟩

/-- A reminder that will ring at eight, and then has to wait for longer than there are dates. -/
def Schedule.beforeEight : Schedule :=
  Schedule.accept {} .kitchen (.twice .mornings 10000000000000) (.onDay 2024 2 29 8 0)

theorem run_beforeEight : ∃ steps, Run {} steps .beforeEight := by
  have hend : (Schedule.performAll {}
      [.publish .kitchen (.twice .mornings 10000000000000) (.onDay 2024 2 29 0 0)]).map (·.2) =
        .ok .beforeEight := by decide +kernel
  obtain ⟨⟨steps, s⟩, hperform, rfl⟩ := Except.map_eq_ok.1 hend
  exact ⟨steps, Run.start.performAll hperform⟩

/-- Where all have expired, none waits for a ring. -/
theorem fireDue_not_ringsAfter [LocalTime] (s : Schedule) (now : DateTime)
    (hone : (s.fireDue now).2.map List.length = .ok 1)
    (expired : ∀ e ∈ (s.fireDue now).1.entries, e.expired) :
    ∃ s' alerts, s.fireDue now = (s', .ok alerts) ∧ ∀ e ∈ s'.entries, ¬ e.RingsAfter now := by
  obtain ⟨alerts, halerts, -⟩ := Except.map_eq_ok.1 hone
  refine ⟨_, alerts, Prod.ext rfl halerts, fun e he hrings => ?_⟩
  have hlive := hrings.1
  rw [expired e he] at hlive
  cases hlive

/-- A reminder need not find its next occurrence.  The next leap day is too far away, whether
the reminder rings or is dismissed, and no date is left for a snooze that takes too long. -/
theorem not_recurring_ringsAfter :
    (¬ ∀ steps s e now, Run {} steps s → e ∈ s.entries → e.request.kind.Recurs →
        (∃ t, now < t ∧ e.request.kind.OccursAt t) → e.isDue now → ¬ e.hasSnooze →
        ∀ s' alerts, s.fireDue now = (s', .ok alerts) → ∃ e' ∈ s'.entries, e'.RingsAfter now) ∧
      (¬ ∀ steps s e now, Run {} steps s → s.get? e.id = some e → e.request.kind.Recurs →
        (∃ t, now < t ∧ e.request.kind.OccursAt t) →
        ∀ s', s.close e.id now = (s', .ok (.ok true)) → ∃ e' ∈ s'.entries, e'.RingsAfter now) ∧
      ¬ ∀ steps s e now, Run {} steps s → e ∈ s.entries → e.request.kind.Recurs →
        e.request.kind.OccursSoon now → e.isDue now →
        ∀ s' alerts, s.fireDue now = (s', .ok alerts) → ∃ e' ∈ s'.entries, e'.RingsAfter now := by
  obtain ⟨steps, run⟩ := run_atEight (.inl rfl)
  have recurs : ReminderKind.leapDays.Recurs := ⟨⟨2, by decide⟩, 29, by decide⟩
  have hoccurs : ∃ t, .onDay 2024 2 29 8 5 < t ∧ ReminderKind.leapDays.OccursAt t :=
    ⟨.onDay 2028 2 29 8 0, by decide +kernel, by decide +kernel, ⟨2, by decide +kernel⟩, 29,
      by decide +kernel⟩
  refine ⟨fun h => ?_, fun h => ?_, fun h => ?_⟩
  · obtain ⟨s', alerts, hfire, hnone⟩ :=
      fireDue_not_ringsAfter (.atEight .leapDays) (.onDay 2024 2 29 8 5)
        (by decide +kernel) (by decide +kernel)
    obtain ⟨e', he', hrings⟩ := h _ _ _ _ run (List.getElem_mem (n := 0) (by decide)) recurs
      hoccurs (by decide +kernel) (by decide) s' alerts hfire
    exact hnone e' he' hrings
  · have hend : ((Schedule.atEight .leapDays).close 1 (.onDay 2024 2 29 8 5)).2.map
        Except.toOption = .ok (some true) := by decide +kernel
    obtain ⟨_ | _, hclose, ⟨⟩⟩ := Except.map_eq_ok.1 hend
    have hgone : ((Schedule.atEight .leapDays).close 1 (.onDay 2024 2 29 8 5)).1 = ⟨1, []⟩ := by
      decide +kernel
    obtain ⟨e', he', -⟩ := h _ _ (Schedule.atEight .leapDays).entries[0] _ run rfl recurs hoccurs
      ⟨1, []⟩ (Prod.ext hgone hclose)
    cases he'
  · obtain ⟨steps, run⟩ := run_beforeEight
    obtain ⟨s', alerts, hfire, hnone⟩ :=
      fireDue_not_ringsAfter .beforeEight (.onDay 2024 2 29 8 0)
        (by decide +kernel) (by decide +kernel)
    obtain ⟨e', he', hrings⟩ := h _ _ _ _ run (List.getElem_mem (n := 0) (by decide))
      ⟨1, by decide⟩ (mornings_occursSoon (by decide +kernel)) (by decide +kernel) s' alerts hfire
    exact hnone e' he' hrings

end Reminders
