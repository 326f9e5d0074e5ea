import Mathlib
import Reminders.Proofs.Batch
import Reminders.Proofs.Calendar

/-!
# The next occurrence

A recurrence rings at certain moments, its *occurrences*.  An alarm occurs at its time of
day on the selected weekdays, or on every day if there are none.  A calendar reminder with
selected months and days occurs at its hour and minute on each such day.

The next ring is the least occurrence after now.  For an alarm that holds whenever there
is one (`nextAlarm_eq_some_iff`).  For a calendar reminder it holds among the occurrences
up to the end of the month one year from now (`nextCalendar?_findsLeast`).

So it makes no difference when one asks for the next ring, as long as it is still ahead
(`ReminderKind.trigger_eq_of_le`).
-/

namespace Reminders

/-! ## Searching for the least element -/

section

variable {α : Type} [LinearOrder α]

/-- Whether a search found the least element of a set, or nothing where there is none. -/
def FindsLeast (found : Option α) (s : Set α) : Prop :=
  match found with
  | some a => IsLeast s a
  | none => s = ∅

theorem FindsLeast.eq_some {found : Option α} {s : Set α} {a : α} (h : FindsLeast found s)
    (ha : IsLeast s a) : found = some a := by
  cases found with
  | none =>
    have hempty : s = ∅ := h
    exact absurd ha.1 (hempty ▸ Set.notMem_empty a)
  | some b => exact congrArg some (IsLeast.unique h ha)

/-- A search by steps, each of which searches a set, where the sets ascend. -/
theorem findSome?_findsLeast {f : Nat → Option α} {s : Nat → Set α} (start count : Nat)
    (hf : ∀ k, FindsLeast (f k) (s k))
    (hascend : ∀ j k, j < k → ∀ a ∈ s j, ∀ b ∈ s k, a ≤ b) :
    FindsLeast ((List.range' start count).findSome? f)
      {a | ∃ k, start ≤ k ∧ k < start + count ∧ a ∈ s k} := by
  induction count generalizing start with
  | zero =>
    refine Set.eq_empty_of_forall_notMem fun a ha => ?_
    obtain ⟨k, hfrom, hto, -⟩ := ha
    omega
  | succ count ih =>
    rw [List.range'_succ, List.findSome?_cons]
    have hstart := hf start
    cases hfound : f start with
    | some a =>
      rw [hfound] at hstart
      refine ⟨⟨start, le_refl _, by omega, hstart.1⟩, ?_⟩
      rintro b ⟨k, hfrom, -, hb⟩
      rcases Nat.eq_or_lt_of_le hfrom with rfl | hlt
      · exact hstart.2 hb
      · exact hascend start k hlt a hstart.1 b hb
    | none =>
      rw [hfound] at hstart
      have hempty : s start = ∅ := hstart
      have hset : {a | ∃ k, start ≤ k ∧ k < start + (count + 1) ∧ a ∈ s k} =
          {a | ∃ k, start + 1 ≤ k ∧ k < start + 1 + count ∧ a ∈ s k} := by
        ext a
        constructor
        · rintro ⟨k, hfrom, hto, ha⟩
          rcases Nat.eq_or_lt_of_le hfrom with rfl | hlt
          · rw [hempty] at ha
            cases ha
          · exact ⟨k, hlt, by omega, ha⟩
        · rintro ⟨k, hfrom, hto, ha⟩
          exact ⟨k, by omega, by omega, ha⟩
      rw [hset]
      exact ih (start + 1)

end

/-! ## Moments -/

namespace TimeOfDay

/-- The same time, or a second before if it is in a leap second. -/
def withoutLeap (t : TimeOfDay) : TimeOfDay where
  second := t.second
  nano := t.nano % 1000000000
  second_lt := t.second_lt
  nano_lt := Nat.lt_trans (Nat.mod_lt _ (by decide)) (by decide)
  leap := fun h => absurd (Nat.mod_lt t.nano (by decide)) (Nat.not_lt.2 h)

theorem withoutLeap_eq_self {t : TimeOfDay} (h : t.nano < 1000000000) : t.withoutLeap = t := by
  rw [← instant_inj]
  simp only [instant, withoutLeap, Nat.mod_eq_of_lt h]

end TimeOfDay

theorem DateTime.lt_iff_le_and_not_ge (t u : DateTime) : t < u ↔ t ≤ u ∧ ¬ u ≤ t := by
  simp only [DateTime.le_def, DateTime.lt_def]
  omega

theorem DateTime.compare_instant (t u : DateTime) :
    compare t u = compareOfLessAndEq t.instant u.instant := rfl

theorem DateTime.compare_eq [DecidableLT DateTime] [DecidableEq DateTime] (t u : DateTime) :
    compare t u = compareOfLessAndEq t u := by
  simp only [compare_instant, compareOfLessAndEq, DateTime.instant_inj, ← DateTime.lt_def]

instance : LinearOrder DateTime where
  le_refl := Std.le_refl
  le_trans _ _ _ := Std.le_trans
  lt_iff_le_not_ge := DateTime.lt_iff_le_and_not_ge
  le_antisymm _ _ := Std.le_antisymm
  le_total _ _ := Std.le_total
  toDecidableLE := inferInstance
  compare_eq_compareOfLessAndEq := DateTime.compare_eq

namespace DateTime

theorem date_le_of_lt {t u : DateTime} (h : t < u) : t.date.number ≤ u.date.number := by
  by_contra hlt
  exact absurd (lt_of_date_lt (not_le.1 hlt)) (not_lt.2 h.le)

/-- Moments at one time of day are ordered by their dates. -/
theorem le_iff_of_time_eq {t u : DateTime} (h : t.time = u.time) :
    t ≤ u ↔ t.date.number ≤ u.date.number := by
  rw [le_def, instant, instant, h]
  omega

/-- Every day up to the date of some moment has its times of day. -/
theorem exists_at_time (time : TimeOfDay) {date : Date} {t : DateTime} {days : Nat}
    (h : date.number + days ≤ t.date.number) :
    ∃ u : DateTime, u.time = time ∧ u.date.number = date.number + days := by
  have hfirst := date.first_le
  have hlast := t.date.le_last
  exact ⟨⟨⟨date.number + days, by omega, by omega⟩, time⟩, rfl, rfl⟩

/-- The month of a moment, counted through the years. -/
def monthIndex (t : DateTime) : Int := t.date.calendar.monthIndex

theorem monthIndex_le {t u : DateTime} (h : t ≤ u) : t.monthIndex ≤ u.monthIndex := by
  rcases h.eq_or_lt with rfl | hlt
  · exact le_refl _
  · exact Date.monthIndex_le (date_le_of_lt hlt)

theorem lt_of_monthIndex_lt {t u : DateTime} (h : t.monthIndex < u.monthIndex) : t < u :=
  lt_of_date_lt (Date.number_lt_of_monthIndex_lt h)

/-- On a later day a leap second is lost. -/
theorem daysLater_eq_ok_iff_withoutLeap {date : Date} {time : TimeOfDay} {days : Nat}
    {t : DateTime} (hdays : 0 < days) :
    daysLater ⟨date, time⟩ days = .ok t ↔
      t.time = time.withoutLeap ∧ t.date.number = date.number + days := by
  have hsecond := time.second_lt
  have hquotient : (time.second + days * 86400) / 86400 = days := by omega
  have hrest : (time.second + days * 86400) % 86400 = time.second := by omega
  rw [daysLater_eq_ok, later?, if_neg (by omega)]
  simp only [hquotient, hrest]
  constructor
  · intro h
    obtain ⟨day, hday, rfl⟩ := Option.map_eq_some_iff.1 h
    exact ⟨rfl, Date.ofNumber?_eq_some hday⟩
  · rintro ⟨htime, hnumber⟩
    have hday : Date.ofNumber? (date.number + Int.ofNat days) = some t.date := by
      rw [Int.ofNat_eq_natCast, ← hnumber, Date.ofNumber?_number]
    rw [hday, Option.map_some]
    exact congrArg (fun time => some (DateTime.mk t.date time)) htime.symm

/-- On whole seconds, days later it is the same time of day. -/
theorem daysLater_eq_ok_iff {date : Date} {time : TimeOfDay} {days : Nat} {t : DateTime}
    (hnano : time.nano < 1000000000) :
    daysLater ⟨date, time⟩ days = .ok t ↔
      t.time = time ∧ t.date.number = date.number + days := by
  rcases Nat.eq_zero_or_pos days with rfl | hdays
  · rw [daysLater_eq_ok, later?, if_pos (Nat.zero_mul _), Option.some.injEq]
    constructor
    · rintro rfl
      exact ⟨rfl, (Int.add_zero _).symm⟩
    · rintro ⟨rfl, hnumber⟩
      have hdate : date = t.date := Date.number_inj.1 (by omega)
      rw [hdate]
  · rw [daysLater_eq_ok_iff_withoutLeap hdays, TimeOfDay.withoutLeap_eq_self hnano]

end DateTime

namespace TimeOfDay

theorem nano_of_ofClock? {hour minute second : Nat} {time : TimeOfDay}
    (h : ofClock? hour minute second = some time) : time.nano = 0 := by
  rw [ofClock?] at h
  split at h
  case isTrue =>
    rw [ofSecond?] at h
    split at h
    case isTrue =>
      cases h
      rfl
    case isFalse => cases h
  case isFalse => cases h

end TimeOfDay

namespace Recurrence

/-! ## Alarms -/

variable {hour minute : UInt8} {weekdays : Nat} {now t : DateTime} {time : TimeOfDay}

/-- The moments after now at a time of day, on the selected weekdays or on every day. -/
def alarmOccurrences (time : TimeOfDay) (weekdays : Nat) (now : DateTime) : Set DateTime :=
  {t | t.time = time ∧ (weekdays = 0 ∨ selects weekdays t.date.weekday) ∧ now < t}

/-- Counting on by days is counting on by days of the week. -/
theorem weekdayAfter_eq {d d' : Date} {days : Nat} (h : d'.number = d.number + days) :
    weekdayAfter d.weekday days = d'.weekday := by
  simp only [weekdayAfter, Date.weekday, daysPerWeek, h]
  omega

/-- The fewest days after which the time of day is ahead. -/
def soonest (time : TimeOfDay) (now : DateTime) : Nat := if ⟨now.date, time⟩ ≤ now then 1 else 0

/-- Whether an alarm rings on the day a number of days from now. -/
def ringsAfter (weekdays : Nat) (now : DateTime) (days : Nat) : Bool :=
  weekdays = 0 || selects weekdays (weekdayAfter now.date.weekday days)

/-- A time of day lies ahead from the soonest day on. -/
theorem lt_iff_soonest_le {days : Nat} (htime : t.time = time)
    (hnumber : t.date.number = now.date.number + days) : now < t ↔ soonest time now ≤ days := by
  rw [soonest]
  by_cases hzero : days = 0
  case pos =>
    subst hzero
    have htoday : t = ⟨now.date, time⟩ := by
      obtain ⟨date, _⟩ := t
      have hdate : date = now.date := Date.number_inj.1 (by simpa using hnumber)
      rw [hdate, ← htime]
    rw [htoday]
    split
    case isTrue hle => simp [hle]
    case isFalse hlt => simp [not_le.1 hlt]
  case neg =>
    have hlt : now < t := DateTime.lt_of_date_lt (by omega)
    simp only [hlt, true_iff]
    split <;> omega

/-- The occurrences of an alarm, by the days from now on. -/
theorem mem_alarmOccurrences {days : Nat} (hnumber : t.date.number = now.date.number + days) :
    t ∈ alarmOccurrences time weekdays now ↔
      t.time = time ∧ ringsAfter weekdays now days ∧ soonest time now ≤ days := by
  have hrings : ringsAfter weekdays now days ↔
      weekdays = 0 ∨ selects weekdays t.date.weekday := by
    rw [ringsAfter, weekdayAfter_eq hnumber, Bool.or_eq_true, decide_eq_true_eq]
  rw [hrings]
  constructor
  · rintro ⟨htime, hweekday, hlt⟩
    exact ⟨htime, hweekday, (lt_iff_soonest_le htime hnumber).1 hlt⟩
  · rintro ⟨htime, hweekday, hle⟩
    exact ⟨htime, hweekday, (lt_iff_soonest_le htime hnumber).2 hle⟩

/-- An alarm looks for the next of the following days. -/
theorem nextAlarm_eq (htime : TimeOfDay.ofClock? hour.toNat minute.toNat 0 = some time) :
    nextAlarm hour minute weekdays now true =
      match (List.range' (soonest time now) (daysPerWeek + 1 - soonest time now)).find?
          (ringsAfter weekdays now) with
      | none => .ok none
      | some days => (DateTime.daysLater ⟨now.date, time⟩ days).map some := by
  rw [nextAlarm, htime]
  simp only
  split
  case isTrue hnone =>
    subst hnone
    have hfind : (List.range' (soonest time now) (daysPerWeek + 1 - soonest time now)).find?
        (ringsAfter 0 now) = some (soonest time now) := by
      rw [List.find?_range'_eq_some]
      refine ⟨rfl, ?_, fun j hle hlt => absurd hlt (Nat.not_lt.2 hle)⟩
      rw [List.mem_range'_1, soonest]
      split <;> decide
    rw [hfind, soonest]
    by_cases hle : (⟨now.date, time⟩ : DateTime) ≤ now
    · rw [if_neg (not_lt.2 hle), if_pos hle]
      rfl
    · rw [if_pos (not_le.1 hle), if_neg hle]
      rfl
  case isFalse hsome =>
    have hrings : ringsAfter weekdays now = fun days =>
        selects weekdays (weekdayAfter now.date.weekday days) := by
      funext days
      simp [ringsAfter, hsome]
    rw [hrings]
    rfl

/-- An alarm is the first selected day among the days that are looked at. -/
theorem nextAlarm_eq_some_iff_find?
    (htime : TimeOfDay.ofClock? hour.toNat minute.toNat 0 = some time) :
    nextAlarm hour minute weekdays now true = .ok (some t) ↔ ∃ days,
      (List.range' (soonest time now) (daysPerWeek + 1 - soonest time now)).find?
        (ringsAfter weekdays now) = some days ∧ t.time = time ∧
          t.date.number = now.date.number + days := by
  have hnano : time.nano < 1000000000 := by
    rw [TimeOfDay.nano_of_ofClock? htime]
    decide
  rw [nextAlarm_eq htime]
  split
  case h_1 hnone => simp [hnone]
  case h_2 days hdays =>
    rw [hdays, Except.map_eq_ok]
    simp [DateTime.daysLater_eq_ok_iff hnano]

/-- An alarm that rings some days from now also rings a week earlier. -/
theorem ringsAfter_sub_week {days : Nat} (h : 7 ≤ days) :
    ringsAfter weekdays now (days - 7) = ringsAfter weekdays now days := by
  have hweekday : weekdayAfter now.date.weekday (days - 7) =
      weekdayAfter now.date.weekday days := by
    simp only [weekdayAfter, daysPerWeek]
    omega
  rw [ringsAfter, hweekday, ← ringsAfter]

theorem soonest_le_one (time : TimeOfDay) (now : DateTime) : soonest time now ≤ 1 := by
  rw [soonest]
  split <;> decide

/-- The alarm rings at the least of its occurrences. -/
theorem nextAlarm_eq_some_iff (htime : TimeOfDay.ofClock? hour.toNat minute.toNat 0 = some time) :
    nextAlarm hour minute weekdays now true = .ok (some t) ↔
      IsLeast (alarmOccurrences time weekdays now) t := by
  have hone := soonest_le_one time now
  rw [nextAlarm_eq_some_iff_find? htime]
  constructor
  · rintro ⟨days, hfind, htimeOfDay, hnumber⟩
    rw [List.find?_range'_eq_some, List.mem_range'_1] at hfind
    obtain ⟨hrings, ⟨hsoon, -⟩, hfewest⟩ := hfind
    refine ⟨(mem_alarmOccurrences hnumber).2 ⟨htimeOfDay, hrings, hsoon⟩, fun u hu => ?_⟩
    have hahead := DateTime.date_le_of_lt hu.2.2
    obtain ⟨j, hj⟩ := Int.le.dest hahead
    obtain ⟨hutime, hurings, husoon⟩ := (mem_alarmOccurrences hj.symm).1 hu
    rw [DateTime.le_iff_of_time_eq (htimeOfDay.trans hutime.symm)]
    by_contra hearlier
    simpa [hurings] using hfewest j husoon (by omega)
  · intro hleast
    obtain ⟨days, hnumber⟩ := Int.le.dest (DateTime.date_le_of_lt hleast.1.2.2)
    obtain ⟨htimeOfDay, hrings, hsoon⟩ := (mem_alarmOccurrences hnumber.symm).1 hleast.1
    have hfewest : ∀ j, soonest time now ≤ j → j < days → ringsAfter weekdays now j = false := by
      intro j hj hlt
      by_contra hringsj
      obtain ⟨u, hutime, hunumber⟩ :=
        DateTime.exists_at_time time (show now.date.number + j ≤ t.date.number by omega)
      have hu := hleast.2 ((mem_alarmOccurrences hunumber).2 ⟨hutime, by simpa using hringsj, hj⟩)
      rw [DateTime.le_iff_of_time_eq (htimeOfDay.trans hutime.symm)] at hu
      omega
    have hweek : days ≤ 7 := by
      by_contra hlong
      have hbefore := hfewest (days - 7) (by omega) (by omega)
      rw [ringsAfter_sub_week (by omega), hrings] at hbefore
      cases hbefore
    refine ⟨days, ?_, htimeOfDay, hnumber.symm⟩
    rw [List.find?_range'_eq_some, List.mem_range'_1]
    exact ⟨hrings, ⟨hsoon, by rw [daysPerWeek]; omega⟩, fun j hj hlt => by simp [hfewest j hj hlt]⟩

/-! ## Calendars -/

variable {months days : Nat}

/-- The moments after now at a time of day on the selected days of the selected months. -/
def calendarOccurrences (time : TimeOfDay) (months days : Nat) (now : DateTime) : Set DateTime :=
  {t | t.time = time ∧ selects months t.date.calendar.month ∧ selects days t.date.calendar.day ∧
    now < t}

/-- The moment at a time of a day, if it is ahead. -/
def onDay (time : TimeOfDay) (now : DateTime) (c : CalendarDate) : Set DateTime :=
  {t | t.time = time ∧ t.date.calendar = c ∧ now < t}

/-- On one day the search finds the one moment there is, if it lies ahead. -/
theorem onDay_findsLeast (time : TimeOfDay) (now : DateTime) (c : CalendarDate) :
    FindsLeast ((Date.ofCalendar? c).bind fun date =>
      if now < ⟨date, time⟩ then some ⟨date, time⟩ else none) (onDay time now c) := by
  cases hdate : Date.ofCalendar? c with
  | none =>
    refine Set.eq_empty_of_forall_notMem fun t ht => ?_
    obtain ⟨-, rfl, -⟩ := ht
    rw [Date.ofCalendar?_calendar] at hdate
    cases hdate
  | some date =>
    have honly : ∀ t ∈ onDay time now c, t = ⟨date, time⟩ := by
      rintro t ⟨rfl, hcalendar, -⟩
      rw [← hcalendar, Date.ofCalendar?_calendar] at hdate
      rw [← Option.some.inj hdate]
    rw [Option.bind_some]
    split
    case isTrue hlt =>
      refine ⟨⟨rfl, Date.calendar_of_ofCalendar? hdate, hlt⟩, fun t ht => ?_⟩
      rw [honly t ht]
    case isFalse hle =>
      refine Set.eq_empty_of_forall_notMem fun t ht => hle ?_
      rw [← honly t ht]
      exact ht.2.2

/-- Moments of later days of a month are later. -/
theorem lt_of_day_lt {t u : DateTime} {year : Int} {month day day' : Nat} (hday : day < day')
    (ht : t.date.calendar = ⟨year, month, day⟩) (hu : u.date.calendar = ⟨year, month, day'⟩) :
    t < u := by
  have htnumber := (CalendarDate.dayNumber_eq_monthStart t.date.isValid_calendar).1
  have hunumber := (CalendarDate.dayNumber_eq_monthStart u.date.isValid_calendar).1
  rw [Date.dayNumber_calendar, ht, CalendarDate.monthIndex] at htnumber
  rw [Date.dayNumber_calendar, hu, CalendarDate.monthIndex] at hunumber
  simp only at htnumber hunumber
  exact DateTime.lt_of_date_lt (by omega)

/-- The occurrences in a month. -/
def inMonth (time : TimeOfDay) (days : Nat) (now : DateTime) (year : Int) (month : Nat) :
    Set DateTime :=
  {t | t.time = time ∧ t.date.calendar.year = year ∧ t.date.calendar.month = month ∧
    selects days t.date.calendar.day ∧ now < t}

/-- A month is searched for the first selected day ahead. -/
theorem nextInMonth?_findsLeast (time : TimeOfDay) (days : Nat) (now : DateTime) (year : Int)
    (month : Nat) :
    FindsLeast (nextInMonth? time days now year month) (inMonth time days now year month) := by
  have hset : inMonth time days now year month = {t | ∃ day, 1 ≤ day ∧ day < 1 + daysPerMonth ∧
      t ∈ if selects days day then onDay time now ⟨year, month, day⟩ else ∅} := by
    ext t
    constructor
    · rintro ⟨htime, rfl, rfl, hday, hlt⟩
      have hvalid := t.date.isValid_calendar
      simp only [CalendarDate.isValid, Bool.and_eq_true, decide_eq_true_eq] at hvalid
      have hlast := CalendarDate.daysInMonth_le t.date.calendar.year t.date.calendar.month
      refine ⟨t.date.calendar.day, hvalid.1.2, by rw [daysPerMonth]; omega, ?_⟩
      rw [if_pos hday]
      exact ⟨htime, rfl, hlt⟩
    · rintro ⟨day, -, -, ht⟩
      split at ht
      case isTrue hday =>
        obtain ⟨htime, hcalendar, hlt⟩ := ht
        exact ⟨htime, by rw [hcalendar], by rw [hcalendar], by rw [hcalendar]; exact hday, hlt⟩
      case isFalse => cases ht
  rw [hset, nextInMonth?]
  refine findSome?_findsLeast 1 daysPerMonth (fun day => ?_) fun j k hlt a ha b hb => ?_
  · split
    case isTrue => exact onDay_findsLeast time now ⟨year, month, day⟩
    case isFalse => exact rfl
  · split at ha
    case isTrue =>
      split at hb
      case isTrue => exact (lt_of_day_lt hlt ha.2.1 hb.2.1).le
      case isFalse => cases hb
    case isFalse => cases ha

/-- A month is told by its number. -/
theorem mem_monthAfter_iff {c d : CalendarDate} (hc : c.isValid) (hd : d.isValid) (count : Nat) :
    (d.year = (monthAfter c.year c.month count).1 ∧ d.month = (monthAfter c.year c.month count).2) ↔
      d.monthIndex = c.monthIndex + count := by
  simp only [CalendarDate.isValid, Bool.and_eq_true, decide_eq_true_eq] at hc hd
  simp only [CalendarDate.monthIndex, monthAfter, monthsPerYear, Int.ofNat_eq_natCast]
  omega

/-- The occurrences in the month some months from now, if that month is selected. -/
def inMonthAfter (time : TimeOfDay) (months days : Nat) (now : DateTime) (count : Nat) :
    Set DateTime :=
  let (year, month) := monthAfter now.date.calendar.year now.date.calendar.month count
  if selects months month then inMonth time days now year month else ∅

theorem mem_inMonthAfter {count : Nat} :
    t ∈ inMonthAfter time months days now count ↔
      t ∈ calendarOccurrences time months days now ∧ t.monthIndex = now.monthIndex + count := by
  have hmonth := mem_monthAfter_iff now.date.isValid_calendar t.date.isValid_calendar count
  simp only [inMonthAfter]
  constructor
  · intro ht
    split at ht
    case isTrue hselects =>
      obtain ⟨htime, hyear, hmonth', hday, hlt⟩ := ht
      exact ⟨⟨htime, hmonth' ▸ hselects, hday, hlt⟩, hmonth.1 ⟨hyear, hmonth'⟩⟩
    case isFalse => cases ht
  · rintro ⟨⟨htime, hselects, hday, hlt⟩, hindex⟩
    obtain ⟨hyear, hmonth'⟩ := hmonth.2 hindex
    rw [if_pos (hmonth' ▸ hselects)]
    exact ⟨htime, hyear, hmonth', hday, hlt⟩

/-- Up to a year from now there are thirteen months to search. -/
theorem exists_inMonthAfter_iff :
    (∃ count, 0 ≤ count ∧ count < 0 + (monthsPerYear + 1) ∧
        t ∈ inMonthAfter time months days now count) ↔
      t ∈ calendarOccurrences time months days now ∧ t.monthIndex ≤ now.monthIndex + 12 := by
  simp only [monthsPerYear, mem_inMonthAfter]
  constructor
  · rintro ⟨count, -, hcount, hoccurs, hindex⟩
    exact ⟨hoccurs, by omega⟩
  · rintro ⟨hoccurs, hindex⟩
    have hahead := DateTime.monthIndex_le hoccurs.2.2.2.le
    exact ⟨(t.monthIndex - now.monthIndex).toNat, Nat.zero_le _, by omega, hoccurs, by omega⟩

/-- A calendar reminder rings at the least of its occurrences up to the end of the month one
year from now. -/
theorem nextCalendar?_findsLeast {first : DateTime} (hmonths : months ≠ 0) (hdays : days ≠ 0) :
    FindsLeast (nextCalendar? first months days now)
      {t | t ∈ calendarOccurrences first.time.startOfMinute months days now ∧
        t.monthIndex ≤ now.monthIndex + 12} := by
  simp only [← exists_inMonthAfter_iff]
  rw [nextCalendar?, if_neg (by simp [hmonths, hdays])]
  simp only [List.range_eq_range']
  refine findSome?_findsLeast 0 (monthsPerYear + 1) (fun count => ?_) fun j k hlt a ha b hb => ?_
  · simp only [inMonthAfter]
    split
    case isTrue => exact nextInMonth?_findsLeast _ _ _ _ _
    case isFalse => exact rfl
  · have haindex := (mem_inMonthAfter.1 ha).2
    have hbindex := (mem_inMonthAfter.1 hb).2
    exact (DateTime.lt_of_monthIndex_lt (by omega)).le

/-! ## Asking later -/

variable {before : DateTime}

/-- An alarm found earlier is found again, as long as it lies ahead. -/
theorem nextAlarm_eq_of_le (h : nextAlarm hour minute weekdays before true = .ok (some t))
    (hle : before ≤ now) (hlt : now < t) :
    nextAlarm hour minute weekdays now true = .ok (some t) := by
  cases htime : TimeOfDay.ofClock? hour.toNat minute.toNat 0 with
  | none => simp [nextAlarm, htime] at h
  | some time =>
    rw [nextAlarm_eq_some_iff htime] at h ⊢
    obtain ⟨⟨htimeOfDay, hweekday, -⟩, hleast⟩ := h
    refine ⟨⟨htimeOfDay, hweekday, hlt⟩, ?_⟩
    rintro u ⟨hutime, huweekday, hult⟩
    exact hleast ⟨hutime, huweekday, lt_of_le_of_lt hle hult⟩

theorem nextCalendar?_eq_of_le {first : DateTime}
    (h : nextCalendar? first months days before = some t) (hle : before ≤ now) (hlt : now < t) :
    nextCalendar? first months days now = some t := by
  by_cases hmasks : months = 0 ∨ days = 0
  case pos =>
    simp only [nextCalendar?, if_pos hmasks] at h ⊢
    split at h
    case isTrue =>
      cases h
      rw [if_pos hlt]
    case isFalse => cases h
  case neg =>
    obtain ⟨hmonths, hdays⟩ := not_or.1 hmasks
    have hfound : FindsLeast (nextCalendar? first months days before) _ :=
      nextCalendar?_findsLeast hmonths hdays
    rw [h] at hfound
    obtain ⟨⟨⟨htime, hmonth, hday, -⟩, hindex⟩, hleast⟩ := hfound
    have hlater := DateTime.monthIndex_le hle
    refine (nextCalendar?_findsLeast hmonths hdays).eq_some
      ⟨⟨⟨htime, hmonth, hday, hlt⟩, by omega⟩, fun u hu => ?_⟩
    obtain ⟨⟨hutime, humonth, huday, hult⟩, -⟩ := hu
    -- The search may go further than it did before, but only to later months.
    by_cases hfar : u.monthIndex ≤ before.monthIndex + 12
    · exact hleast ⟨⟨hutime, humonth, huday, lt_of_le_of_lt hle hult⟩, hfar⟩
    · exact (DateTime.lt_of_monthIndex_lt (by omega)).le

end Recurrence

/-- The next ring is found again by whoever asks later, as long as it is ahead. -/
theorem ReminderKind.trigger_eq_of_le {kind : ReminderKind} {before now t : DateTime}
    (hkind : kind.type ≠ .timer) (h : kind.trigger before = .ok (.ok (some t)))
    (hle : before ≤ now) (hlt : now < t) : kind.trigger now = .ok (.ok (some t)) := by
  cases kind with
  | timer => exact absurd rfl hkind
  | calendar dateTime months days =>
    simp only [trigger, Except.ok.injEq] at h ⊢
    obtain ⟨first, hfirst, hnext⟩ := Except.map_eq_ok.1 h
    rw [hfirst]
    exact congrArg Except.ok (Recurrence.nextCalendar?_eq_of_le hnext hle hlt)
  | alarm hour minute weekdays =>
    obtain ⟨next, hnext, hok⟩ := Except.map_eq_ok.1 h
    cases hok
    rw [trigger, Recurrence.nextAlarm_eq_of_le hnext hle hlt]
    rfl

end Reminders
