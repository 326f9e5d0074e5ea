import Mathlib
import Reminders.Proofs.NextRing

/-!
# The hour and the minute of a calendar reminder

A calendar reminder rings at the hour and the minute of its date time.  It rings at its second as
well unless it repeats, since the days of its lists are gone through at the start of a minute
(`ReminderRequest.calendar_atTime`).

If its lists have the month and the day of its date time, then the date time is one of the moments
at which it rings, and the next ring is not behind it.  There is a next ring before the minute of
the date time unless that is a 29 February which is too far away to be looked for
(`ReminderKind.occursSoon_of_before`).
-/

namespace Reminders

/-! ## Dates of every year -/

namespace CalendarDate

theorem daysInMonth_of_ne (year year' : Int) {month : Nat} (h : month ≠ 2) :
    daysInMonth year month = daysInMonth year' month := by
  unfold daysInMonth
  split
  case h_1 => exact absurd rfl h
  all_goals rfl

/-- Each date but the 29 February is there in every year. -/
theorem isValid_of_not_leapDay {c : CalendarDate} (valid : c.isValid)
    (h : ¬ (c.month = 2 ∧ c.day = 29)) (year : Int) : isValid ⟨year, c.month, c.day⟩ := by
  simp only [isValid, Bool.and_eq_true, decide_eq_true_eq] at valid ⊢
  refine ⟨valid.1, ?_⟩
  by_cases hfebruary : c.month = 2
  case pos =>
    have hday := valid.2
    rw [hfebruary] at hday ⊢
    simp only [daysInMonth] at hday ⊢
    split at hday <;> split <;> omega
  case neg =>
    rw [daysInMonth_of_ne year c.year hfebruary]
    exact valid.2

end CalendarDate

/-- The year behind that of a date has dates if a later year has one. -/
theorem Date.exists_next_year {d later : Date} (h : d.calendar.year < later.calendar.year) :
    ∃ next : Date, next.calendar.year = d.calendar.year + 1 := by
  have hd := d.year_mem
  have hlater := later.year_mem
  have hyear : -262143 ≤ d.calendar.year + 1 ∧ d.calendar.year + 1 ≤ 262142 := by omega
  obtain ⟨next, hnext⟩ := (exists_ofCalendar?_iff
    (show CalendarDate.isValid ⟨d.calendar.year + 1, 1, 1⟩ from rfl)).2 hyear
  exact ⟨next, congrArg CalendarDate.year (calendar_of_ofCalendar? hnext)⟩

/-- The start of the minute of a date time. -/
def DateTime.startOfMinute (t : DateTime) : DateTime := ⟨t.date, t.time.startOfMinute⟩

theorem DateTime.startOfMinute_le (t : DateTime) : t.startOfMinute ≤ t := by
  simp only [le_def, instant, TimeOfDay.instant, startOfMinute, TimeOfDay.startOfMinute,
    Int.ofNat_eq_natCast]
  omega

theorem LocalDateTime.calendar_of_toDateTime {numbers : LocalDateTime} {t : DateTime}
    (h : numbers.toDateTime = .ok t) :
    t.date.calendar = ⟨numbers.year.toInt, numbers.month.toNat, numbers.day.toNat⟩ := by
  obtain ⟨date, hdate, hmoment⟩ := Option.bind_eq_some_iff.1 (toDateTime_eq_ok_iff.1 h)
  obtain ⟨time, -, hmoment⟩ := Option.bind_eq_some_iff.1 hmoment
  cases hmoment
  exact Date.calendar_of_ofCalendar? hdate

/-- Without a second, a date time is the start of a minute. -/
theorem LocalDateTime.startOfMinute_of_second {numbers : LocalDateTime} {t : DateTime}
    (h : numbers.toDateTime = .ok t) (hsecond : numbers.second = 0) : t.startOfMinute = t := by
  have htime := ofClock?_of_toDateTime h
  have hstart := TimeOfDay.ofClock?_startOfMinute htime
  rw [hsecond] at htime
  exact congrArg (DateTime.mk t.date) (Option.some.inj (hstart.symm.trans htime))

/-! ## The moments of a calendar reminder -/

namespace ReminderKind

variable {dateTime : LocalDateTime} {months days : List UInt8} {first now t : DateTime}

theorem occursAt_calendar_iff (hfirst : dateTime.toDateTime = .ok first) :
    (calendar dateTime months days).OccursAt t ↔
      t.time = first.time.startOfMinute ∧
        Recurrence.selects (Recurrence.monthMask months) t.date.calendar.month ∧
        Recurrence.selects (Recurrence.dayMask days) t.date.calendar.day := by
  have hclock := TimeOfDay.ofClock?_startOfMinute (LocalDateTime.ofClock?_of_toDateTime hfirst)
  rw [OccursAt, hclock, Option.some.injEq, Recurrence.selects_monthMask,
    Recurrence.selects_dayMask, eq_comm]

/-- It occurs soon if it rings within the year to come. -/
theorem occursSoon_calendar_iff (hfirst : dateTime.toDateTime = .ok first) :
    (calendar dateTime months days).OccursSoon now ↔
      (Recurrence.yearlyRings first (Recurrence.monthMask months) (Recurrence.dayMask days) now ∩
        Recurrence.withinYear now).Nonempty := by
  simp only [OccursSoon, occursAt_calendar_iff hfirst, Recurrence.yearlyRings_eq,
    Recurrence.calendarOccurrences, Set.Nonempty, Set.mem_inter_iff, Recurrence.mem_withinYear_iff,
    Set.mem_ofPred_eq]
  refine exists_congr fun t => ?_
  constructor
  · rintro ⟨hlt, ⟨htime, hmonth, hday⟩, hnear⟩
    exact ⟨⟨htime, hmonth, hday, hlt⟩, hnear rfl⟩
  · rintro ⟨⟨htime, hmonth, hday, hlt⟩, hnear⟩
    exact ⟨hlt, ⟨htime, hmonth, hday⟩, fun _ => hnear⟩

theorem trigger_calendar (hfirst : dateTime.toDateTime = .ok first) :
    (calendar dateTime months days).trigger now = .ok (.ok (Recurrence.nextCalendar? first
      (Recurrence.monthMask months) (Recurrence.dayMask days) now)) := by
  rw [trigger, hfirst]
  rfl

/-- The next ring is the first of the moments within the year to come. -/
theorem nextCalendar?_findsLeast (recurs : (calendar dateTime months days).Recurs) :
    FindsLeast (Recurrence.nextCalendar? first (Recurrence.monthMask months)
        (Recurrence.dayMask days) now)
      (Recurrence.yearlyRings first (Recurrence.monthMask months) (Recurrence.dayMask days) now ∩
        Recurrence.withinYear now) :=
  Recurrence.nextCalendar?_findsLeast_yearlyRings (Recurrence.mask_ne_zero_iff.2 recurs.1)
    (Recurrence.mask_ne_zero_iff.2 recurs.2)

theorem trigger_calendar_eq_some_iff (hfirst : dateTime.toDateTime = .ok first)
    (recurs : (calendar dateTime months days).Recurs) :
    (calendar dateTime months days).trigger now = .ok (.ok (some t)) ↔
      IsLeast (Recurrence.yearlyRings first (Recurrence.monthMask months)
        (Recurrence.dayMask days) now ∩ Recurrence.withinYear now) t := by
  rw [trigger_calendar hfirst, Except.ok.injEq, Except.ok.injEq]
  exact (nextCalendar?_findsLeast recurs).eq_some_iff

/-- A calendar reminder that repeats rings again if and only if it occurs soon. -/
theorem exists_trigger_calendar_iff (hfirst : dateTime.toDateTime = .ok first)
    (recurs : (calendar dateTime months days).Recurs) :
    (∃ t, (calendar dateTime months days).trigger now = .ok (.ok (some t))) ↔
      (calendar dateTime months days).OccursSoon now := by
  rw [occursSoon_calendar_iff hfirst, Set.nonempty_iff_ne_empty, ne_eq,
    ← (nextCalendar?_findsLeast recurs).eq_none_iff, trigger_calendar hfirst,
    ← ne_eq, Option.ne_none_iff_exists']
  simp only [Except.ok.injEq]

/-- It rings at the time of day of its date time, and without its second if it repeats. -/
theorem time_of_trigger_calendar (hfirst : dateTime.toDateTime = .ok first)
    (h : (calendar dateTime months days).trigger now = .ok (.ok (some t))) :
    t.time = if (calendar dateTime months days).repeats then first.time.startOfMinute
      else first.time := by
  by_cases hrepeats : (calendar dateTime months days).repeats
  case pos =>
    rw [trigger_calendar_eq_some_iff hfirst (repeats_iff_recurs.1 hrepeats)] at h
    obtain ⟨⟨⟨-, hminute, -⟩, -⟩, -⟩ := h
    rw [if_pos hrepeats]
    exact first.time.isMinute_startOfMinute.iff_eq.1 hminute
  case neg =>
    rw [if_neg hrepeats]
    rw [trigger_calendar hfirst, Except.ok.injEq, Except.ok.injEq, Recurrence.nextCalendar?,
      if_pos ?_] at h
    · split at h
      case isTrue =>
        cases h
        rfl
      case isFalse => cases h
    · simpa [repeats, or_iff_not_imp_left] using hrepeats

/-! ## A date time that its lists have -/

section

variable (hfirst : dateTime.toDateTime = .ok first) (hmonth : dateTime.month ∈ months)
  (hday : dateTime.day ∈ days)
include hfirst hmonth hday

/-- The minute of the date time is one of the moments. -/
theorem startOfMinute_occursAt : (calendar dateTime months days).OccursAt first.startOfMinute := by
  have hcalendar := LocalDateTime.calendar_of_toDateTime hfirst
  refine ⟨TimeOfDay.ofClock?_startOfMinute (LocalDateTime.ofClock?_of_toDateTime hfirst), ?_, ?_⟩
  · exact ⟨dateTime.month, hmonth, congrArg CalendarDate.month hcalendar.symm⟩
  · exact ⟨dateTime.day, hday, congrArg CalendarDate.day hcalendar.symm⟩

theorem recurs_of_mem : (calendar dateTime months days).Recurs := by
  have hcalendar := LocalDateTime.calendar_of_toDateTime hfirst
  have valid := first.date.isValid_calendar
  have hlast := CalendarDate.daysInMonth_le first.date.calendar.year first.date.calendar.month
  simp only [hcalendar, CalendarDate.isValid, Bool.and_eq_true, decide_eq_true_eq] at valid hlast
  exact ⟨⟨dateTime.month, hmonth, valid.1.1⟩, dateTime.day, hday, valid.1.2,
    Nat.le_trans valid.2 hlast⟩

/-- Before its minute, the next ring is not behind the date time. -/
theorem le_of_trigger_calendar (hbefore : now < first.startOfMinute)
    (h : (calendar dateTime months days).trigger now = .ok (.ok (some t))) : t ≤ first := by
  have hat := (occursAt_calendar_iff hfirst).1 (startOfMinute_occursAt hfirst hmonth hday)
  rw [trigger_calendar_eq_some_iff hfirst (recurs_of_mem hfirst hmonth hday)] at h
  refine le_trans ?_ first.startOfMinute_le
  by_cases hnear : first.startOfMinute ∈ Recurrence.withinYear now
  case pos =>
    refine h.2 ⟨?_, hnear⟩
    rw [Recurrence.yearlyRings_eq]
    exact ⟨hat.1, hat.2.1, hat.2.2, hbefore⟩
  case neg =>
    have ht := Recurrence.mem_withinYear_iff.1 h.1.2
    rw [Recurrence.mem_withinYear_iff] at hnear
    exact (DateTime.lt_of_monthIndex_lt (by omega)).le

/-- Before its minute there is a next ring, unless the date time is a 29 February behind the
year to come. -/
theorem occursSoon_of_before (hbefore : now < first.startOfMinute)
    (h : ¬ (dateTime.month = 2 ∧ dateTime.day = 29 ∧ now.monthIndex + 12 < first.monthIndex)) :
    (calendar dateTime months days).OccursSoon now := by
  have hat := startOfMinute_occursAt hfirst hmonth hday
  by_cases hfar : now.monthIndex + 12 < first.monthIndex
  case neg => exact ⟨first.startOfMinute, hbefore, hat, fun _ => not_lt.1 hfar⟩
  case pos =>
    -- The same date within the year to come takes its place.
    have hcalendar := LocalDateTime.calendar_of_toDateTime hfirst
    have valid := first.date.isValid_calendar
    have hleap : ¬ (first.date.calendar.month = 2 ∧ first.date.calendar.day = 29) := by
      rw [hcalendar]
      exact fun hleap => h ⟨UInt8.toNat_inj.1 hleap.1, UInt8.toNat_inj.1 hleap.2, hfar⟩
    have hmask := (occursAt_calendar_iff hfirst).1 hat
    have hyear : now.date.calendar.year < first.date.calendar.year := by
      have hnow := now.date.isValid_calendar
      simp only [CalendarDate.isValid, Bool.and_eq_true, decide_eq_true_eq] at valid hnow
      simp only [DateTime.monthIndex, CalendarDate.monthIndex] at hfar
      omega
    obtain ⟨next, hnext⟩ := Date.exists_next_year hyear
    rw [occursSoon_calendar_iff hfirst]
    exact Recurrence.exists_mem_withinYear first hmask.2.1 hmask.2.2
      (CalendarDate.isValid_of_not_leapDay valid hleap) hnext

end

end ReminderKind

namespace ReminderRequest

variable {r : ReminderRequest} {dateTime : LocalDateTime} {months days : List UInt8}
  {first now t : DateTime}

theorem trigger_of_ring
    (h : r.firstTrigger now = .ok (.ok (some t)) ∨ r.nextTrigger now = .ok (.ok (some t))) :
    r.kind.trigger now = .ok (.ok (some t)) := by
  rcases h with hfirst | hnext
  · exact hfirst
  · rw [nextTrigger] at hnext
    split at hnext
    · exact hnext
    · cases hnext

/-- A calendar reminder rings at the hour and the minute of its date time, and at its second
unless that is given and the reminder repeats.  If its lists have the date of the date time, then
before its minute the first ring is not behind it.  There is one if it occurs within the year to
come, and so it does unless the date time is a 29 February behind that. -/
theorem calendar_atTime (hkind : r.kind = .calendar dateTime months days)
    (hfirst : dateTime.toDateTime = .ok first) (now : DateTime) :
    (∀ t, r.firstTrigger now = .ok (.ok (some t)) ∨ r.nextTrigger now = .ok (.ok (some t)) →
        t.time.hour = first.time.hour ∧ t.time.minute = first.time.minute ∧
          (dateTime.second = 0 ∨ ¬ r.kind.Recurs → t.time = first.time)) ∧
      (dateTime.month ∈ months → dateTime.day ∈ days → now < first.startOfMinute →
        ((∃ t, r.firstTrigger now = .ok (.ok (some t)) ∧ t ≤ first) ↔ r.kind.OccursSoon now) ∧
          (¬ (dateTime.month = 2 ∧ dateTime.day = 29 ∧
            now.monthIndex + 12 < first.monthIndex) → r.kind.OccursSoon now)) := by
  constructor
  · intro t h
    have htrigger := trigger_of_ring h
    rw [hkind] at htrigger
    have htime := ReminderKind.time_of_trigger_calendar hfirst htrigger
    have hminute := first.time.isMinute_startOfMinute
    rw [← hkind] at htime
    split at htime
    case isTrue hrepeats =>
      rw [htime]
      refine ⟨hminute.hour_eq, hminute.minute_eq, ?_⟩
      rintro (hsecond | honce)
      · exact congrArg DateTime.time (LocalDateTime.startOfMinute_of_second hfirst hsecond)
      · exact absurd (ReminderKind.repeats_iff_recurs.1 hrepeats) honce
    case isFalse =>
      rw [htime]
      exact ⟨rfl, rfl, fun _ => rfl⟩
  · intro hmonth hday hbefore
    have recurs := ReminderKind.recurs_of_mem hfirst hmonth hday
    rw [firstTrigger, hkind]
    refine ⟨?_, ReminderKind.occursSoon_of_before hfirst hmonth hday hbefore⟩
    rw [← ReminderKind.exists_trigger_calendar_iff hfirst recurs]
    constructor
    · rintro ⟨t, ht, -⟩
      exact ⟨t, ht⟩
    · rintro ⟨t, ht⟩
      exact ⟨t, ht, ReminderKind.le_of_trigger_calendar hfirst hmonth hday hbefore ht⟩

/-! ## At eight -/

/-- At a date time of every year. -/
def yearly (dateTime : LocalDateTime) : ReminderRequest where
  kind := .calendar dateTime [dateTime.month] [dateTime.day]

/-- Its first ring is what the search in its month and day finds. -/
theorem firstTrigger_yearly {found : Option DateTime} (hfirst : dateTime.toDateTime = .ok first)
    (hfound : Recurrence.nextCalendar? first (Recurrence.monthMask [dateTime.month])
      (Recurrence.dayMask [dateTime.day]) now = found) :
    (yearly dateTime).firstTrigger now = .ok (.ok found) := by
  rw [← hfound]
  exact ReminderKind.trigger_calendar hfirst

end ReminderRequest

/-- Eight o'clock and some seconds on a day. -/
def LocalDateTime.atEight (year : Int32) (month day second : UInt8) : LocalDateTime :=
  ⟨year, month, day, 8, 0, second⟩

/-- The moment of some numbers, if they are one. -/
def LocalDateTime.moment (numbers : LocalDateTime) : DateTime := numbers.toDateTime?.getD .first

namespace ReminderRequest

/-- A reminder of the tenth of March rings then, at eight. -/
theorem calendar_atTime_march :
    ∃ t, (yearly (.atEight 2025 3 10 0)).firstTrigger (.onDay 2025 3 1 0 0) =
        .ok (.ok (some t)) ∧
      t ≤ .onDay 2025 3 10 8 0 ∧ t.time = (DateTime.onDay 2025 3 10 8 0).time := by
  have hmoment : (LocalDateTime.atEight 2025 3 10 0).toDateTime = .ok (.onDay 2025 3 10 8 0) :=
    LocalDateTime.toDateTime_eq_ok_iff.2 (by decide +kernel)
  obtain ⟨htime, hfirst⟩ :=
    calendar_atTime (r := yearly (.atEight 2025 3 10 0)) rfl hmoment (.onDay 2025 3 1 0 0)
  obtain ⟨hring, hsoon⟩ := hfirst (by decide) (by decide) (by decide +kernel)
  obtain ⟨t, ht, hle⟩ := hring.2 (hsoon (by decide))
  obtain ⟨-, -, hsame⟩ := htime t (.inl ht)
  exact ⟨t, ht, hle, hsame (.inl rfl)⟩

/-- A calendar reminder may ring at another second than that of its date time.  Its first ring may
be behind the date time, and there may be none. -/
theorem not_calendar_atTime :
    (¬ ∀ (r : ReminderRequest) (dateTime : LocalDateTime) (months days : List UInt8)
        (first now t : DateTime), r.kind = .calendar dateTime months days →
        dateTime.toDateTime = .ok first →
        r.firstTrigger now = .ok (.ok (some t)) ∨ r.nextTrigger now = .ok (.ok (some t)) →
        t.time = first.time) ∧
      (¬ ∀ (r : ReminderRequest) (dateTime : LocalDateTime) (months days : List UInt8)
        (first now : DateTime), r.kind = .calendar dateTime months days →
        dateTime.toDateTime = .ok first → r.kind.Recurs → dateTime.month ∈ months →
        dateTime.day ∈ days → ¬ (dateTime.month = 2 ∧ dateTime.day = 29) → now < first →
        ∃ t, r.firstTrigger now = .ok (.ok (some t)) ∧ t ≤ first) ∧
      ¬ ∀ (r : ReminderRequest) (dateTime : LocalDateTime) (months days : List UInt8)
        (first now : DateTime), r.kind = .calendar dateTime months days →
        dateTime.toDateTime = .ok first → r.kind.Recurs → dateTime.month ∈ months →
        dateTime.day ∈ days → dateTime.second = 0 → now < first →
        ∃ t, r.firstTrigger now = .ok (.ok (some t)) ∧ t ≤ first := by
  have hmarch : (LocalDateTime.atEight 2025 3 10 30).toDateTime =
      .ok (LocalDateTime.atEight 2025 3 10 30).moment :=
    LocalDateTime.toDateTime_eq_ok_iff.2 (by decide +kernel)
  have hleapDay : (LocalDateTime.atEight 2028 2 29 0).toDateTime =
      .ok (LocalDateTime.atEight 2028 2 29 0).moment :=
    LocalDateTime.toDateTime_eq_ok_iff.2 (by decide +kernel)
  refine ⟨fun h => ?_, fun h => ?_, fun h => ?_⟩
  · have hfound : Recurrence.nextCalendar? (LocalDateTime.atEight 2025 3 10 30).moment
        (Recurrence.monthMask [3]) (Recurrence.dayMask [10]) (.onDay 2025 3 1 0 0) =
          some (.onDay 2025 3 10 8 0) := by decide +kernel
    have htime := h (yearly (.atEight 2025 3 10 30)) _ _ _ _ _ _ rfl hmarch
      (.inl (firstTrigger_yearly hmarch hfound))
    revert htime
    decide +kernel
  · obtain ⟨t, ht, hle⟩ := h (yearly (.atEight 2025 3 10 30)) _ _ _ _
      (LocalDateTime.atEight 2025 3 10 10).moment rfl hmarch
      ⟨⟨3, by decide⟩, 10, by decide⟩ (by decide) (by decide) (by decide) (by decide +kernel)
    have hfound : Recurrence.nextCalendar? (LocalDateTime.atEight 2025 3 10 30).moment
        (Recurrence.monthMask [3]) (Recurrence.dayMask [10])
        (LocalDateTime.atEight 2025 3 10 10).moment = some (.onDay 2026 3 10 8 0) := by
      decide +kernel
    cases (firstTrigger_yearly hmarch hfound).symm.trans ht
    revert hle
    decide +kernel
  · obtain ⟨t, ht, -⟩ := h (yearly (.atEight 2028 2 29 0)) _ _ _ _ (.onDay 2025 3 1 0 0) rfl
      hleapDay ⟨⟨2, by decide⟩, 29, by decide⟩ (by decide) (by decide) rfl (by decide +kernel)
    have hfound : Recurrence.nextCalendar? (LocalDateTime.atEight 2028 2 29 0).moment
        (Recurrence.monthMask [2]) (Recurrence.dayMask [29]) (.onDay 2025 3 1 0 0) = none := by
      decide +kernel
    cases (firstTrigger_yearly hleapDay hfound).symm.trans ht

end ReminderRequest

end Reminders
