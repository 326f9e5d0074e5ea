import Mathlib
import Reminders.Proofs.Recurring

/-!
# When alarms and calendar reminders ring next

A calendar reminder with selected months and days rings at the start of a minute, on each of
these days.  Its next ring is the earliest of these moments within the year to come, which ends
with the month of now one year later (`nextCalendar?_isLeast`).  Nothing is looked for behind
that.  If one of the selected days is in the calendar of every year, then the year to come has it
(`exists_mem_withinYear`), and the next ring is the earliest of all.

An alarm rings at the start of a minute, on the weekdays in its list, or on every day if it lists
none.  One of these days is among the next seven (`exists_ringsAfter_within_week`).  So an alarm
finds its next ring unless the dates come to an end before (`ReminderRequest.alarm_isLeast`).
-/

namespace Reminders

/-! ## Whole minutes -/

namespace TimeOfDay

/-- Whether the time is the start of a minute. -/
structure IsMinute (t : TimeOfDay) (hour minute : Nat) : Prop where
  hour_eq : t.hour = hour
  minute_eq : t.minute = minute
  second_eq : t.secondOfMinute = 0
  nano_eq : t.nano = 0

variable {t u : TimeOfDay} {hour minute : Nat}

theorem IsMinute.eq (ht : t.IsMinute hour minute) (hu : u.IsMinute hour minute) : t = u := by
  obtain ⟨hhour, hminute, hsecond, hnano⟩ := ht
  obtain ⟨hhour', hminute', hsecond', hnano'⟩ := hu
  simp only [TimeOfDay.hour, TimeOfDay.minute, secondOfMinute] at *
  have hseconds : t.second = u.second := by omega
  rw [← instant_inj, instant, instant, hseconds, hnano, hnano']

theorem IsMinute.iff_eq (ht : t.IsMinute hour minute) : u.IsMinute hour minute ↔ u = t :=
  ⟨fun hu => hu.eq ht, fun h => h ▸ ht⟩

theorem isMinute_startOfMinute (t : TimeOfDay) : t.startOfMinute.IsMinute t.hour t.minute := by
  have hstart : t.startOfMinute.second = t.second - t.second % 60 := rfl
  constructor
  · rw [TimeOfDay.hour, TimeOfDay.hour, hstart]
    omega
  · rw [TimeOfDay.minute, TimeOfDay.minute, hstart]
    omega
  · rw [secondOfMinute, hstart]
    omega
  · rfl

/-- There is a time of day for every hour and minute of a clock. -/
theorem exists_ofClock? (hhour : hour < 24) (hminute : minute < 60) :
    ∃ time, ofClock? hour minute 0 = some time ∧ time.IsMinute hour minute := by
  have hday : hour * 3600 + minute * 60 + 0 < 86400 := by omega
  rw [ofClock?, if_pos ⟨hhour, hminute, by decide⟩, ofSecond?,
    dif_pos ⟨hday, by decide, fun h => absurd h (by decide)⟩]
  refine ⟨_, rfl, ?_, ?_, ?_, rfl⟩
  · simp only [TimeOfDay.hour]
    omega
  · simp only [TimeOfDay.minute]
    omega
  · simp only [secondOfMinute]
    omega

end TimeOfDay

/-! ## Years -/

namespace CalendarDate

variable {c : CalendarDate}

/-- The first day that can be represented is the first of its year. -/
theorem firstDay_le_dayNumber_iff (valid : c.isValid) :
    firstDay ≤ c.dayNumber ↔ -262143 ≤ c.year := by
  have hstart : monthStart (12 * -262143) = firstDay := by decide
  obtain ⟨hday, hnext⟩ := dayNumber_eq_monthStart valid
  simp only [isValid, Bool.and_eq_true, decide_eq_true_eq] at valid
  rw [← hstart]
  constructor
  · intro hle
    by_contra hearly
    have hbefore : c.monthIndex + 1 ≤ 12 * -262143 := by
      rw [monthIndex]
      omega
    have hmono := monthStart_mono hbefore
    omega
  · intro hyear
    have hbehind : 12 * -262143 ≤ c.monthIndex := by
      rw [monthIndex]
      omega
    have hmono := monthStart_mono hbehind
    omega

/-- The last one is the last of its year. -/
theorem dayNumber_le_lastDay_iff (valid : c.isValid) :
    c.dayNumber ≤ lastDay ↔ c.year ≤ 262142 := by
  have hend : monthStart (12 * 262143) = lastDay + 1 := by decide
  obtain ⟨hday, hnext⟩ := dayNumber_eq_monthStart valid
  simp only [isValid, Bool.and_eq_true, decide_eq_true_eq] at valid
  constructor
  · intro hle
    by_contra hlate
    have hbehind : 12 * 262143 ≤ c.monthIndex := by
      rw [monthIndex]
      omega
    have hmono := monthStart_mono hbehind
    omega
  · intro hyear
    have hbefore : c.monthIndex + 1 ≤ 12 * 262143 := by
      rw [monthIndex]
      omega
    have hmono := monthStart_mono hbefore
    omega

end CalendarDate

namespace Date

/-- A day can be represented if and only if its year can. -/
theorem exists_ofCalendar?_iff {c : CalendarDate} (valid : c.isValid) :
    (∃ d, ofCalendar? c = some d) ↔ -262143 ≤ c.year ∧ c.year ≤ 262142 := by
  rw [← CalendarDate.firstDay_le_dayNumber_iff valid, ← CalendarDate.dayNumber_le_lastDay_iff valid,
    ofCalendar?, if_pos valid, ofNumber?]
  split
  case isTrue hrange => exact iff_of_true ⟨_, rfl⟩ hrange
  case isFalse hrange => exact iff_of_false (by simp) hrange

theorem year_mem (d : Date) : -262143 ≤ d.calendar.year ∧ d.calendar.year ≤ 262142 :=
  (exists_ofCalendar?_iff d.isValid_calendar).1 ⟨d, d.ofCalendar?_calendar⟩

/-- A year that has a date has every date of its calendar. -/
theorem exists_of_year_eq {c : CalendarDate} (valid : c.isValid) {d : Date}
    (hyear : c.year = d.calendar.year) : ∃ d', ofCalendar? c = some d' := by
  rw [exists_ofCalendar?_iff valid, hyear]
  exact d.year_mem

end Date

/-! ## Searching -/

section

variable {α : Type} [LinearOrder α] {found : Option α} {s : Set α}

theorem FindsLeast.eq_some_iff (h : FindsLeast found s) {a : α} : found = some a ↔ IsLeast s a := by
  constructor
  · rintro rfl
    exact h
  · exact h.eq_some

theorem FindsLeast.eq_none_iff (h : FindsLeast found s) : found = none ↔ s = ∅ := by
  cases found with
  | none => exact iff_of_true rfl h
  | some a =>
    have hleast : IsLeast s a := h
    exact iff_of_false (by simp) (Set.nonempty_iff_ne_empty.1 ⟨a, hleast.1⟩)

end

namespace Recurrence

/-! ## Calendars -/

variable {first now t : DateTime} {months days : Nat}

/-- The moments after now that fall on a selected day of a selected month, at the start of the
minute of the first one. -/
def yearlyRings (first : DateTime) (months days : Nat) (now : DateTime) : Set DateTime :=
  {t | now < t ∧ t.time.IsMinute first.time.hour first.time.minute ∧
    selects months t.date.calendar.month ∧ selects days t.date.calendar.day}

/-- The moments up to the end of the month of now in the next year. -/
def withinYear (now : DateTime) : Set DateTime :=
  {t | t.date.calendar.year ≤ now.date.calendar.year ∨
    t.date.calendar.year = now.date.calendar.year + 1 ∧
      t.date.calendar.month ≤ now.date.calendar.month}

/-- The rings of a year, as the search has them. -/
theorem yearlyRings_eq :
    yearlyRings first months days now =
      calendarOccurrences first.time.startOfMinute months days now := by
  ext t
  simp only [yearlyRings, calendarOccurrences, Set.mem_ofPred_eq,
    first.time.isMinute_startOfMinute.iff_eq]
  tauto

/-- Within a year is up to the twelfth month behind this one. -/
theorem mem_withinYear_iff : t ∈ withinYear now ↔ t.monthIndex ≤ now.monthIndex + 12 := by
  have ht := t.date.isValid_calendar
  have hnow := now.date.isValid_calendar
  simp only [CalendarDate.isValid, Bool.and_eq_true, decide_eq_true_eq] at ht hnow
  simp only [withinYear, Set.mem_ofPred_eq, DateTime.monthIndex, CalendarDate.monthIndex]
  omega

/-- The search finds the least ring within a year. -/
theorem nextCalendar?_findsLeast_yearlyRings (hmonths : months ≠ 0) (hdays : days ≠ 0) :
    FindsLeast (nextCalendar? first months days now)
      (yearlyRings first months days now ∩ withinYear now) := by
  have hset : yearlyRings first months days now ∩ withinYear now =
      {t | t ∈ calendarOccurrences first.time.startOfMinute months days now ∧
        t.monthIndex ≤ now.monthIndex + 12} := by
    ext t
    rw [yearlyRings_eq, Set.mem_inter_iff, mem_withinYear_iff, Set.mem_ofPred_eq]
  rw [hset]
  exact nextCalendar?_findsLeast hmonths hdays

/-- Of the year of now and the next one, the year to come has a given month in one. -/
theorem exists_year_within (now : DateTime) {month : Nat} (day : Nat) (hfirst : 1 ≤ month)
    (hlast : month ≤ 12) :
    ∃ year, (year = now.date.calendar.year ∨ year = now.date.calendar.year + 1) ∧
      now.monthIndex < CalendarDate.monthIndex ⟨year, month, day⟩ ∧
      CalendarDate.monthIndex ⟨year, month, day⟩ ≤ now.monthIndex + 12 := by
  simp only [DateTime.monthIndex, CalendarDate.monthIndex]
  by_cases hahead : now.date.calendar.month < month
  case pos => exact ⟨now.date.calendar.year, .inl rfl, by omega, by omega⟩
  case neg =>
    have hnow := now.date.isValid_calendar
    simp only [CalendarDate.isValid, Bool.and_eq_true, decide_eq_true_eq] at hnow
    exact ⟨now.date.calendar.year + 1, .inr rfl, by omega, by omega⟩

/-- A day that is in the calendar of every year is in the year to come. -/
theorem exists_mem_withinYear (first : DateTime) {month day : Nat}
    (hmonth : selects months month) (hday : selects days day)
    (valid : ∀ year, CalendarDate.isValid ⟨year, month, day⟩)
    {next : Date} (hnext : next.calendar.year = now.date.calendar.year + 1) :
    (yearlyRings first months days now ∩ withinYear now).Nonempty := by
  have hparts := valid 0
  simp only [CalendarDate.isValid, Bool.and_eq_true, decide_eq_true_eq] at hparts
  obtain ⟨year, hyear, hahead, hnear⟩ :=
    exists_year_within now day hparts.1.1.1 hparts.1.1.2
  obtain ⟨date, hdate⟩ : ∃ date, Date.ofCalendar? ⟨year, month, day⟩ = some date := by
    obtain rfl | rfl := hyear
    · exact Date.exists_of_year_eq (valid _) (d := now.date) rfl
    · exact Date.exists_of_year_eq (valid _) (d := next) hnext.symm
  have hcalendar := Date.calendar_of_ofCalendar? hdate
  have hindex : DateTime.monthIndex ⟨date, first.time.startOfMinute⟩ =
      CalendarDate.monthIndex ⟨year, month, day⟩ := congrArg CalendarDate.monthIndex hcalendar
  refine ⟨⟨date, first.time.startOfMinute⟩, ⟨?_, ?_, ?_, ?_⟩, ?_⟩
  · exact DateTime.lt_of_monthIndex_lt (hindex ▸ hahead)
  · exact first.time.isMinute_startOfMinute
  · rw [hcalendar]
    exact hmonth
  · rw [hcalendar]
    exact hday
  · rw [mem_withinYear_iff, hindex]
    exact hnear

/-- What is the earliest within the year to come is the earliest of all. -/
theorem isLeast_of_withinYear {s : Set DateTime} (h : IsLeast (s ∩ withinYear now) t) :
    IsLeast s t := by
  obtain ⟨⟨ht, hnear⟩, hleast⟩ := h
  refine ⟨ht, fun u hu => ?_⟩
  by_cases hunear : u ∈ withinYear now
  · exact hleast ⟨hu, hunear⟩
  · rw [mem_withinYear_iff] at hnear hunear
    exact (DateTime.lt_of_monthIndex_lt (by omega)).le

/-- A calendar reminder rings at the earliest of its moments within the year to come.  If there is
one in every year, it is the earliest of all. -/
theorem nextCalendar?_isLeast (first now : DateTime) {months days : Nat} (hmonths : months ≠ 0)
    (hdays : days ≠ 0) :
    (∀ t, nextCalendar? first months days now = some t ↔
      IsLeast (yearlyRings first months days now ∩ withinYear now) t) ∧
    (nextCalendar? first months days now = none ↔
      yearlyRings first months days now ∩ withinYear now = ∅) ∧
    ((∃ month day, selects months month ∧ selects days day ∧
        ∀ year, CalendarDate.isValid ⟨year, month, day⟩) →
      (∃ next : Date, next.calendar.year = now.date.calendar.year + 1) →
      ∃ t, nextCalendar? first months days now = some t ∧
        IsLeast (yearlyRings first months days now) t) := by
  have hfinds : FindsLeast (nextCalendar? first months days now) _ :=
    nextCalendar?_findsLeast_yearlyRings hmonths hdays
  refine ⟨fun t => hfinds.eq_some_iff, hfinds.eq_none_iff, ?_⟩
  rintro ⟨month, day, hmonth, hday, valid⟩ ⟨next, hnext⟩
  obtain ⟨u, hu⟩ := exists_mem_withinYear first hmonth hday valid hnext
  cases hfound : nextCalendar? first months days now with
  | none =>
    rw [hfinds.eq_none_iff] at hfound
    exact absurd hu (hfound ▸ Set.notMem_empty u)
  | some t => exact ⟨t, rfl, isLeast_of_withinYear (hfinds.eq_some_iff.1 hfound)⟩

/-- The fifth of January is the first one to come in November, and no February has a thirtieth. -/
theorem nextCalendar?_isLeast_fifth :
    monthMask [1, 11] ≠ 0 ∧ dayMask [5] ≠ 0 ∧
      nextCalendar? (.onDay 2025 1 1 8 0) (monthMask [1, 11]) (dayMask [5])
        (.onDay 2025 11 5 9 0) = some (.onDay 2026 1 5 8 0) ∧
      IsLeast (yearlyRings (.onDay 2025 1 1 8 0) (monthMask [1, 11]) (dayMask [5])
        (.onDay 2025 11 5 9 0)) (.onDay 2026 1 5 8 0) ∧
      yearlyRings (.onDay 2025 1 1 8 0) (monthMask [2]) (dayMask [30]) (.onDay 2025 1 10 0 0) ∩
        withinYear (.onDay 2025 1 10 0 0) = ∅ := by
  have hfound : nextCalendar? (.onDay 2025 1 1 8 0) (monthMask [1, 11]) (dayMask [5])
      (.onDay 2025 11 5 9 0) = some (.onDay 2026 1 5 8 0) := by decide +kernel
  have hnone : nextCalendar? (.onDay 2025 1 1 8 0) (monthMask [2]) (dayMask [30])
      (.onDay 2025 1 10 0 0) = none := by decide +kernel
  have hmonths : monthMask [1, 11] ≠ 0 := by decide
  have hdays : dayMask [5] ≠ 0 := by decide
  have hfebruary : monthMask [2] ≠ 0 := by decide
  have hthirtieth : dayMask [30] ≠ 0 := by decide
  obtain ⟨-, -, hleast⟩ :=
    nextCalendar?_isLeast (.onDay 2025 1 1 8 0) (.onDay 2025 11 5 9 0) hmonths hdays
  obtain ⟨t, ht, hleast⟩ := hleast ⟨1, 5, by decide, by decide, fun _ => rfl⟩
    ⟨(DateTime.onDay 2026 1 5 8 0).date, by decide +kernel⟩
  obtain rfl := Option.some.inj (ht.symm.trans hfound)
  obtain ⟨-, hempty, -⟩ :=
    nextCalendar?_isLeast (.onDay 2025 1 1 8 0) (.onDay 2025 1 10 0 0) hfebruary hthirtieth
  exact ⟨hmonths, hdays, hfound, hleast, hempty.1 hnone⟩

/-! ## Alarms -/

variable {weekdays : List UInt8} {time : TimeOfDay} {hour minute : Nat}

/-- The moments after now at the start of a minute, on the weekdays in a list, or on every day if
there are none. -/
def weeklyRings (hour minute : Nat) (weekdays : List UInt8) (now : DateTime) : Set DateTime :=
  {t | now < t ∧ t.time.IsMinute hour minute ∧
    ((∃ d ∈ weekdays, 1 ≤ d.toNat ∧ d.toNat ≤ 7) → ∃ d ∈ weekdays, d.toNat = t.date.weekday)}

theorem weekdayMask_ne_zero_iff :
    weekdayMask weekdays ≠ 0 ↔ ∃ d ∈ weekdays, 1 ≤ d.toNat ∧ d.toNat ≤ 7 :=
  mask_ne_zero_iff

theorem selects_weekdayMask {n : Nat} (hlow : 1 ≤ n) (hhigh : n ≤ 7) :
    selects (weekdayMask weekdays) n ↔ ∃ d ∈ weekdays, d.toNat = n :=
  selects_mask hlow hhigh

theorem weeklyRings_eq (htime : time.IsMinute hour minute) :
    weeklyRings hour minute weekdays now = alarmOccurrences time (weekdayMask weekdays) now := by
  ext t
  have hweekday := t.date.weekday_le
  simp only [weeklyRings, alarmOccurrences, Set.mem_ofPred_eq, htime.iff_eq,
    selects_weekdayMask hweekday.1 hweekday.2, ← weekdayMask_ne_zero_iff]
  tauto

/-- One of the next seven days is a selected one. -/
theorem exists_ringsAfter_within_week (weekdays : List UInt8) (now : DateTime) :
    ∃ days, 1 ≤ days ∧ days ≤ 7 ∧ ringsAfter (weekdayMask weekdays) now days := by
  by_cases hnone : weekdayMask weekdays = 0
  case pos => exact ⟨1, by decide, by decide, by simp [ringsAfter, hnone]⟩
  case neg =>
    obtain ⟨d, hd, hlow, hhigh⟩ := weekdayMask_ne_zero_iff.1 hnone
    have hweekday := now.date.weekday_le
    have hafter : weekdayAfter now.date.weekday
        ((d.toNat + 6 - now.date.weekday) % 7 + 1) = d.toNat := by
      rw [weekdayAfter, daysPerWeek]
      omega
    refine ⟨(d.toNat + 6 - now.date.weekday) % 7 + 1, by omega, by omega, ?_⟩
    rw [ringsAfter, hafter, (selects_weekdayMask hlow hhigh).2 ⟨d, hd, rfl⟩, Bool.or_true]

/-- So an alarm occurs within a week, unless the dates come to an end before. -/
theorem alarmOccurrences_nonempty (time : TimeOfDay) (weekdays : List UInt8)
    (hnow : now.date.number + 7 ≤ lastDay) :
    (alarmOccurrences time (weekdayMask weekdays) now).Nonempty := by
  obtain ⟨days, hlow, hhigh, hrings⟩ := exists_ringsAfter_within_week weekdays now
  have hfirst := now.date.first_le
  have hsoon := soonest_le_one time now
  exact ⟨⟨⟨now.date.number + days, by omega, by omega⟩, time⟩,
    (mem_alarmOccurrences rfl).2 ⟨rfl, hrings, by omega⟩⟩

end Recurrence

/-- An alarm with a day of the week moves on as it first came, and one without has no next
trigger. -/
theorem ReminderRequest.nextTrigger_alarm {r : ReminderRequest} {hour minute : UInt8}
    {weekdays : List UInt8} (hkind : r.kind = .alarm hour minute weekdays) (now : DateTime) :
    ((∃ d ∈ weekdays, 1 ≤ d.toNat ∧ d.toNat ≤ 7) → r.nextTrigger now = r.firstTrigger now) ∧
      ((¬ ∃ d ∈ weekdays, 1 ≤ d.toNat ∧ d.toNat ≤ 7) → r.nextTrigger now = .ok (.ok none)) := by
  have hrepeats : r.kind.repeats ↔ ∃ d ∈ weekdays, 1 ≤ d.toNat ∧ d.toNat ≤ 7 := by
    rw [hkind]
    exact ReminderKind.repeats_iff_recurs
  rw [nextTrigger, ← hrepeats]
  exact ⟨fun h => if_pos h, fun h => if_neg h⟩

/-- An alarm rings at the earliest of its moments, and again if it lists a weekday.  There has to
be a date seven days from now, since the alarm may have to wait until then. -/
theorem ReminderRequest.alarm_isLeast {r : ReminderRequest} {hour minute : UInt8}
    {weekdays : List UInt8} {now : DateTime} (hkind : r.kind = .alarm hour minute weekdays)
    (hhour : hour.toNat < 24) (hminute : minute.toNat < 60)
    (hnow : now.date.number + 7 ≤ lastDay) :
    ∃ t, r.firstTrigger now = .ok (.ok (some t)) ∧
      IsLeast (Recurrence.weeklyRings hour.toNat minute.toNat weekdays now) t ∧
      ((∃ d ∈ weekdays, 1 ≤ d.toNat ∧ d.toNat ≤ 7) →
        r.nextTrigger now = .ok (.ok (some t))) ∧
      ((¬ ∃ d ∈ weekdays, 1 ≤ d.toNat ∧ d.toNat ≤ 7) → r.nextTrigger now = .ok (.ok none)) := by
  obtain ⟨time, hclock, htime⟩ := TimeOfDay.exists_ofClock? hhour hminute
  obtain ⟨u, hu⟩ := Recurrence.alarmOccurrences_nonempty time weekdays hnow
  obtain ⟨t, ht⟩ := Recurrence.exists_nextAlarm hclock hu
  have hfirst : r.firstTrigger now = .ok (.ok (some t)) := by
    rw [firstTrigger, hkind, ReminderKind.trigger, ht]
    rfl
  obtain ⟨hagain, honce⟩ := nextTrigger_alarm hkind now
  refine ⟨t, hfirst, ?_, fun h => (hagain h).trans hfirst, honce⟩
  rw [Recurrence.weeklyRings_eq htime]
  exact (Recurrence.nextAlarm_eq_some_iff hclock).1 ht

/-- On a Wednesday at ten it is too late for nine, so that the next Wednesday is due, whatever else
the list has that is no weekday.  Without a weekday it is the next day, and once. -/
theorem ReminderRequest.alarm_isLeast_wednesday :
    (DateTime.onDay 2025 3 5 10 0).date.number + 7 ≤ lastDay ∧
      IsLeast (Recurrence.weeklyRings 9 0 [3, 9, 3] (.onDay 2025 3 5 10 0))
        (.onDay 2025 3 12 9 0) ∧
      nextTrigger { kind := .alarm 9 0 [3, 9, 3] } (.onDay 2025 3 5 10 0) =
        .ok (.ok (some (.onDay 2025 3 12 9 0))) ∧
      IsLeast (Recurrence.weeklyRings 9 0 [9, 0] (.onDay 2025 3 5 10 0)) (.onDay 2025 3 6 9 0) ∧
      nextTrigger { kind := .alarm 9 0 [9, 0] } (.onDay 2025 3 5 10 0) = .ok (.ok none) := by
  have hnow : (DateTime.onDay 2025 3 5 10 0).date.number + 7 ≤ lastDay := by decide +kernel
  have hweekly : Recurrence.nextAlarm 9 0 (Recurrence.weekdayMask [3, 9, 3])
      (.onDay 2025 3 5 10 0) true = .ok (some (.onDay 2025 3 12 9 0)) := by decide +kernel
  have hdaily : Recurrence.nextAlarm 9 0 (Recurrence.weekdayMask [9, 0])
      (.onDay 2025 3 5 10 0) true = .ok (some (.onDay 2025 3 6 9 0)) := by decide +kernel
  obtain ⟨t, ht, hleast, hagain, -⟩ := alarm_isLeast (r := { kind := .alarm 9 0 [3, 9, 3] })
    rfl (by decide) (by decide) hnow
  rw [firstTrigger, ReminderKind.trigger, hweekly] at ht
  cases ht
  obtain ⟨u, hu, hleast', -, honce⟩ := alarm_isLeast (r := { kind := .alarm 9 0 [9, 0] })
    rfl (by decide) (by decide) hnow
  rw [firstTrigger, ReminderKind.trigger, hdaily] at hu
  cases hu
  exact ⟨hnow, hleast, hagain ⟨3, by decide⟩, hleast', honce (by decide)⟩

end Reminders
